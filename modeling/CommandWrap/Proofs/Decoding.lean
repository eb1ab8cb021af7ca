import CommandWrap.Text.Utf8
import Mathlib

/-!
# Decoding undoes encoding

The bytes of a text are those of its characters one after another (`encode`).  Decoding accepts exactly the
bytes of texts, and gives the text that they encode (`decode_eq_ok_iff`).
-/
namespace CommandWrap.Text.Utf8

/-- The bytes of a text. -/
def encode (cs : List Char) : List UInt8 :=
  cs.flatMap String.utf8EncodeChar

theorem toList_loop (bs : ByteArray) (i : Nat) (r : List UInt8) :
    ByteArray.toList.loop bs i r = r.reverse ++ bs.data.toList.drop i := by
  fun_induction ByteArray.toList.loop bs i r with
  | case1 i r h ih =>
    rw [ih, List.reverse_cons, List.append_assoc, List.singleton_append,
      List.drop_eq_getElem_cons (i := i) (by simpa using h)]
    simp [ByteArray.get!, h]
  | case2 i r h =>
    rw [List.drop_eq_nil_of_le (by simpa using h), List.append_nil]

/-- The bytes that are written for a text are those that it encodes to. -/
theorem toList_toUTF8 (s : String) : s.toUTF8.toList = encode s.toList := by
  have hdata (bytes : List UInt8) : bytes.toByteArray.data.toList = bytes := by simp
  rw [String.toUTF8_eq_toByteArray, ← String.utf8Encode_toList, List.utf8Encode, ByteArray.toList,
    toList_loop, hdata]
  rfl

/-! ## One character -/

/-- Bytes that continue the character begun by `first`. -/
def Continue (first : UInt8) : List UInt8 → Prop
  | [] => True
  | second :: more => follows first second = true ∧ ∀ b ∈ more, continues b = true

/-- The number that the bytes of a character write. -/
def codeOf (first : UInt8) (more : List UInt8) : Nat :=
  more.foldl (fun n b => 0x40 * n + payload b)
    (if more.length = 0 then first.toNat else first.toNat % Nat.pow 2 (6 - more.length))

theorem followers_eq {first : UInt8} {more : List UInt8} (h : Continue first more) (rest : List UInt8) :
    followers first more.length (more ++ rest) = more.length := by
  cases more with
  | nil => rfl
  | cons second more =>
    rw [List.cons_append, List.length_cons, followers, if_pos h.1, List.take_left,
      List.takeWhile_eq_self_iff.mpr h.2, Nat.add_comm]

theorem followers_spec (first : UInt8) (wanted : Nat) (rest : List UInt8) :
    Continue first (rest.take (followers first wanted rest)) ∧ followers first wanted rest ≤ wanted ∧
      followers first wanted rest ≤ rest.length := by
  fun_cases followers first wanted rest with
  | case1 => exact ⟨trivial, le_rfl, Nat.zero_le _⟩
  | case2 => exact ⟨trivial, Nat.zero_le _, le_rfl⟩
  | case3 n second more h =>
    have hprefix : (more.take n).takeWhile continues <+: more :=
      (List.takeWhile_prefix continues).trans (List.take_prefix ..)
    have hlength : ((more.take n).takeWhile continues).length ≤ n :=
      (List.takeWhile_sublist _).length_le.trans (by simp)
    rw [Nat.add_comm 1, List.take_succ_cons, ← List.prefix_iff_eq_take.mp hprefix]
    exact ⟨⟨h, fun b => List.mem_takeWhile_imp⟩, Nat.succ_le_succ hlength, Nat.succ_le_succ hprefix.length_le⟩
  | case4 => exact ⟨trivial, Nat.zero_le _, Nat.zero_le _⟩

/-- A first byte and all the bytes that it expects are read as a character. -/
theorem decodeFrom_char {first : UInt8} {more : List UInt8} (hexpected : expected first = more.length + 1)
    (hmore : Continue first more) (position : Nat) (rest : List UInt8) :
    decodeFrom position (first :: (more ++ rest)) =
      (decodeFrom (position + (more.length + 1)) rest).map (Char.ofNat (codeOf first more) :: ·) := by
  rw [decodeFrom, hexpected, if_neg (Nat.succ_ne_zero _), Nat.add_sub_cancel, followers_eq hmore, if_neg (lt_irrefl _),
    List.drop_left, List.take_left, codeOf]
  have hsize : (more.length + 1 = 1) = (more.length = 0) := by simp
  have hwidth : 7 - (more.length + 1) = 6 - more.length := by omega
  simp only [hsize, hwidth]
  cases decodeFrom (position + (more.length + 1)) rest <;> rfl

/-- Bytes are decoded when the first of them is a character, and then those behind it. -/
theorem decodeFrom_eq_ok {position : Nat} {first : UInt8} {bytes : List UInt8} {cs : List Char}
    (h : decodeFrom position (first :: bytes) = .ok cs) :
    ∃ more rest cs', bytes = more ++ rest ∧ expected first = more.length + 1 ∧ Continue first more ∧
      cs = Char.ofNat (codeOf first more) :: cs' ∧
      decodeFrom (position + (more.length + 1)) rest = .ok cs' := by
  obtain ⟨hcontinue, hwanted, hlength⟩ := followers_spec first (expected first - 1) bytes
  have hall : expected first ≠ 0 ∧ ¬ followers first (expected first - 1) bytes + 1 < expected first := by
    -- a first byte that starts nothing and one with too few behind it are errors
    rw [decodeFrom] at h
    refine ⟨fun hstart => ?_, fun hmissing => ?_⟩
    · rw [if_pos hstart] at h
      cases h
    · rw [if_neg (Nat.ne_zero_of_lt hmissing), if_pos hmissing] at h
      cases h
  generalize followers first (expected first - 1) bytes = got at hcontinue hwanted hlength hall
  have hmore : expected first = (bytes.take got).length + 1 := by
    rw [List.length_take]
    omega
  have hrun := decodeFrom_char hmore hcontinue position (bytes.drop got)
  rw [List.take_append_drop, h] at hrun
  cases hrest : decodeFrom (position + ((bytes.take got).length + 1)) (bytes.drop got) with
  | error f =>
    rw [hrest] at hrun
    cases hrun
  | ok cs' =>
    rw [hrest] at hrun
    exact ⟨_, _, cs', (List.take_append_drop ..).symm, hmore, hcontinue, Except.ok.inj hrun, hrest⟩

/-! ## Characters and their bytes -/

theorem expected_spec (b : UInt8) :
    (expected b = 1 ↔ b.toNat < 0x80) ∧ (expected b = 2 ↔ 0xC2 ≤ b.toNat ∧ b.toNat < 0xE0) ∧
      (expected b = 3 ↔ 0xE0 ≤ b.toNat ∧ b.toNat < 0xF0) ∧ (expected b = 4 ↔ 0xF0 ≤ b.toNat ∧ b.toNat < 0xF5) ∧
      expected b ≤ 4 := by
  dsimp only [expected]
  split_ifs <;> simp <;> omega

theorem continues_iff (b : UInt8) : continues b = true ↔ 0x80 ≤ b.toNat ∧ b.toNat < 0xC0 := by
  simp [continues]

theorem follows_iff (first second : UInt8) : follows first second = true ↔
    (0x80 ≤ second.toNat ∧ second.toNat < 0xC0) ∧ (first.toNat = 0xE0 → 0xA0 ≤ second.toNat) ∧
      (first.toNat = 0xED → second.toNat < 0xA0) ∧ (first.toNat = 0xF0 → 0x90 ≤ second.toNat) ∧
      (first.toNat = 0xF4 → second.toNat < 0x90) := by
  rw [follows, Bool.and_eq_true, continues_iff]
  refine and_congr_right fun _ => ?_
  have hnat (n : Nat) (hn : n < 256) : first = UInt8.ofNat n ↔ first.toNat = n := by
    rw [← UInt8.toNat_inj, UInt8.toNat_ofNat_of_lt' hn]
  have h1 := hnat 0xE0 (by decide)
  have h2 := hnat 0xED (by decide)
  have h3 := hnat 0xF0 (by decide)
  have h4 := hnat 0xF4 (by decide)
  split_ifs <;> simp_all

theorem codeOf_cases (first b b' b'' : UInt8) : codeOf first [] = first.toNat ∧
    codeOf first [b] = 64 * (first.toNat % 32) + b.toNat % 64 ∧
    codeOf first [b, b'] = 64 * (64 * (first.toNat % 16) + b.toNat % 64) + b'.toNat % 64 ∧
    codeOf first [b, b', b''] =
      64 * (64 * (64 * (first.toNat % 8) + b.toNat % 64) + b'.toNat % 64) + b''.toNat % 64 :=
  ⟨rfl, rfl, rfl, rfl⟩

/-- The bytes of a character are read as that character. -/
theorem utf8EncodeChar_spec (c : Char) : ∃ first more, String.utf8EncodeChar c = first :: more ∧
    expected first = more.length + 1 ∧ Continue first more ∧ codeOf first more = c.toNat := by
  have hbyte (n : Nat) (h : n < 256) : (UInt8.ofNat n).toNat = n := UInt8.toNat_ofNat_of_lt' h
  have hvalid : c.val.toNat < 0xD800 ∨ 0xDFFF < c.val.toNat ∧ c.val.toNat < 0x110000 := c.valid
  rw [String.utf8EncodeChar]
  change ∃ first more, _ ∧ _ ∧ _ ∧ codeOf first more = c.val.toNat
  generalize c.val.toNat = v at hvalid
  have hlast := hbyte (v % 64 + 128) (by omega)
  have hsecond := hbyte (v / 64 % 64 + 128) (by omega)
  have hthird := hbyte (v / 4096 % 64 + 128) (by omega)
  -- one case for each length; the number is too large for the lengths before, which bounds the byte behind the first
  split_ifs with h1 h2 h3
  · have hfirst := hbyte v (by omega)
    exact ⟨_, _, rfl, (expected_spec _).1.mpr (by omega), trivial, hfirst⟩
  · have hfirst := hbyte (v / 64 % 32 + 192) (by omega)
    refine ⟨_, _, rfl, (expected_spec _).2.1.mpr (by omega), ⟨?_, List.forall_mem_nil _⟩, ?_⟩
    · rw [follows_iff]
      omega
    · rw [(codeOf_cases _ _ 0 0).2.1]
      omega
  · have hfirst := hbyte (v / 4096 % 16 + 224) (by omega)
    refine ⟨_, _, rfl, (expected_spec _).2.2.1.mpr (by omega), ⟨?_, List.forall_mem_singleton.mpr ?_⟩, ?_⟩
    · rw [follows_iff]
      omega
    · rw [continues_iff]
      omega
    · rw [(codeOf_cases _ _ _ 0).2.2.1]
      omega
  · have hfirst := hbyte (v / 262144 % 8 + 240) (by omega)
    refine ⟨_, _, rfl, (expected_spec _).2.2.2.1.mpr (by omega), ⟨?_, ?_⟩, ?_⟩
    · rw [follows_iff]
      omega
    · rw [List.forall_mem_cons, List.forall_mem_singleton, continues_iff, continues_iff]
      omega
    · rw [(codeOf_cases _ _ _ _).2.2.2]
      omega

theorem utf8EncodeChar_ofNat {v : Nat} (h : v < 0xD800 ∨ 0xDFFF < v ∧ v < 0x110000) :
    String.utf8EncodeChar (Char.ofNat v) =
      if v ≤ 0x7f then [UInt8.ofNat v]
      else if v ≤ 0x7ff then [UInt8.ofNat (v / 64 % 32 + 192), UInt8.ofNat (v % 64 + 128)]
      else if v ≤ 0xffff then
        [UInt8.ofNat (v / 4096 % 16 + 224), UInt8.ofNat (v / 64 % 64 + 128), UInt8.ofNat (v % 64 + 128)]
      else
        [UInt8.ofNat (v / 262144 % 8 + 240), UInt8.ofNat (v / 4096 % 64 + 128), UInt8.ofNat (v / 64 % 64 + 128),
          UInt8.ofNat (v % 64 + 128)] := by
  have hv : (Char.ofNat v).val.toNat = v := by
    rw [Char.ofNat, dif_pos h]
    rfl
  rw [String.utf8EncodeChar, hv]

/-- Bytes that are read as a character are the bytes of that character. -/
theorem utf8EncodeChar_codeOf {first : UInt8} {more : List UInt8} (hexpected : expected first = more.length + 1)
    (hmore : Continue first more) : String.utf8EncodeChar (Char.ofNat (codeOf first more)) = first :: more := by
  obtain ⟨h1, h2, h3, h4, hle⟩ := expected_spec first
  have hbyte {b : UInt8} {n : Nat} (h : b.toNat = n) : UInt8.ofNat n = b := h ▸ UInt8.ofNat_toNat
  -- by the number of bytes, which the first one tells; the code lies in the range that is encoded with as many
  match more with
  | [] =>
    have hfirst := h1.mp hexpected
    have hcode := (codeOf_cases first 0 0 0).1
    rw [utf8EncodeChar_ofNat (by omega), if_pos (by omega), hbyte hcode.symm]
  | [b] =>
    have hfirst := h2.mp hexpected
    have hcode := (codeOf_cases first b 0 0).2.1
    have hb := (follows_iff _ _).mp hmore.1
    rw [utf8EncodeChar_ofNat (by omega), if_neg (by omega), if_pos (by omega), hbyte (b := first) (by omega),
      hbyte (b := b) (by omega)]
  | [b, b'] =>
    have hfirst := h3.mp hexpected
    have hcode := (codeOf_cases first b b' 0).2.2.1
    have hb := (follows_iff _ _).mp hmore.1
    have hb' := (continues_iff _).mp (hmore.2 b' (by simp))
    rw [utf8EncodeChar_ofNat (by omega), if_neg (by omega), if_neg (by omega), if_pos (by omega),
      hbyte (b := first) (by omega), hbyte (b := b) (by omega), hbyte (b := b') (by omega)]
  | [b, b', b''] =>
    have hfirst := h4.mp hexpected
    have hcode := (codeOf_cases first b b' b'').2.2.2
    have hb := (follows_iff _ _).mp hmore.1
    have hb' := (continues_iff _).mp (hmore.2 b' (by simp))
    have hb'' := (continues_iff _).mp (hmore.2 b'' (by simp))
    rw [utf8EncodeChar_ofNat (by omega), if_neg (by omega), if_neg (by omega), if_neg (by omega),
      hbyte (b := first) (by omega), hbyte (b := b) (by omega), hbyte (b := b') (by omega),
      hbyte (b := b'') (by omega)]
  | b :: b' :: b'' :: b''' :: more =>
    simp only [hexpected, List.length_cons] at hle
    omega

/-! ## Texts -/

theorem decodeFrom_eq_ok_iff (position : Nat) (bytes : List UInt8) (cs : List Char) :
    decodeFrom position bytes = .ok cs ↔ bytes = encode cs := by
  constructor
  · intro h
    induction hn : bytes.length using Nat.strongRecOn generalizing position bytes cs with
    | ind n ih =>
      cases bytes with
      | nil =>
        rw [decodeFrom] at h
        obtain rfl := Except.ok.inj h
        rfl
      | cons first bytes =>
        obtain ⟨more, rest, cs', rfl, hexpected, hmore, rfl, hrest⟩ := decodeFrom_eq_ok h
        have hlt : rest.length < n := by
          rw [← hn, List.length_cons, List.length_append]
          omega
        rw [ih _ hlt _ _ _ hrest rfl, encode, encode, List.flatMap_cons, utf8EncodeChar_codeOf hexpected hmore]
        rfl
  · rintro rfl
    induction cs generalizing position with
    | nil => rw [encode, List.flatMap_nil, decodeFrom]
    | cons c cs ih =>
      obtain ⟨first, more, hbytes, hexpected, hmore, hcode⟩ := utf8EncodeChar_spec c
      rw [encode, List.flatMap_cons, hbytes, List.cons_append, decodeFrom_char hexpected hmore, hcode, Char.ofNat_toNat]
      exact congrArg (Except.map (c :: ·)) (ih _)

/-- **Decoding undoes encoding**, and accepts nothing but the bytes of texts. -/
theorem decode_eq_ok_iff (bytes : List UInt8) (cs : List Char) : decode bytes = .ok cs ↔ bytes = encode cs :=
  decodeFrom_eq_ok_iff 0 bytes cs

end CommandWrap.Text.Utf8

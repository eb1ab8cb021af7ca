import CommandWrap.Proofs.Outcomes
import CommandWrap.Folder

/-!
# What writing changes in a folder

What is put under names stands there afterwards, and everything else stays (`item?_put`).  A walk leads through
folders only, so it leads to the same place wherever these stay (`walk_keeps`).

Making folders keeps all items and adds nothing but folders (`Grows`).  Writing a file puts its bytes where its path
leads, and nothing else changes; a folder into which a file was written, perhaps into new folders, has **gained**
that file (`Gains`, `Gains.of_write`).
-/
namespace CommandWrap.Folder

variable {f g h : Folder}

/-! ## Items -/

theorem item?_root : f.item? [] = some .folder :=
  rfl

theorem item?_of_ne {names : List String} (hne : names ≠ []) : f.item? names = f.items.lookup names := by
  rw [item?, if_neg (by simpa using hne)]

/-- Replacing the items under one name changes no other. -/
theorem lookup_others {names other : List String} {item : Item} (hother : other ≠ names)
    (items : List (List String × Item)) :
    (items.map fun (n, old) => if n = names then (n, item) else (n, old)).lookup other = items.lookup other := by
  induction items with
  | nil => rfl
  | cons e items ih =>
    obtain ⟨n, old⟩ := e
    rw [List.map_cons]
    dsimp only
    by_cases hn : n = names
    · have hfirst : (other == n) = false := by simpa [hn] using hother
      rw [if_pos hn, List.lookup_cons, List.lookup_cons, hfirst, ih]
    · rw [if_neg hn, List.lookup_cons, List.lookup_cons, ih]

/-- What a name leads to once the item under a name is replaced. -/
theorem lookup_replaced {items : List (List String × Item)} {names : List String}
    (hold : (items.lookup names).isSome) (item : Item) (other : List String) :
    (items.map fun (n, old) => if n = names then (n, item) else (n, old)).lookup other =
      if other = names then some item else items.lookup other := by
  induction items with
  | nil => cases hold
  | cons e items ih =>
    obtain ⟨n, old⟩ := e
    rw [List.map_cons]
    dsimp only
    by_cases hn : n = names
    · subst hn
      rw [if_pos rfl, List.lookup_cons, List.lookup_cons]
      by_cases hother : other = n
      · rw [if_pos hother, hother, beq_self_eq_true]
      · have hfirst : (other == n) = false := by simpa using hother
        rw [if_neg hother, hfirst]
        exact lookup_others hother items
    · have hfirst : (names == n) = false := by simpa using Ne.symm hn
      rw [List.lookup_cons, hfirst] at hold
      rw [if_neg hn, List.lookup_cons, List.lookup_cons, ih hold]
      cases hother : other == n with
      | false => rfl
      | true =>
        have hne : other ≠ names := fun h => hn ((eq_of_beq hother).symm.trans h)
        rw [if_neg hne, if_neg hne]

theorem item?_put {names : List String} (hne : names ≠ []) (item : Item) (other : List String) :
    (f.put names item).item? other = if other = names then some item else f.item? other := by
  by_cases hother : other = []
  · subst hother
    rw [if_neg hne.symm, item?_root, item?_root]
  rw [item?_of_ne hother, item?_of_ne hother, put]
  split
  case isTrue hold => exact lookup_replaced hold item other
  case isFalse hnew =>
    rw [List.lookup_append]
    by_cases hsame : other = names
    · subst hsame
      rw [if_pos rfl, Option.not_isSome_iff_eq_none.mp hnew]
      simp
    · have hlast : (other == names) = false := by simpa using hsame
      rw [if_neg hsame, List.lookup_cons, hlast]
      cases f.items.lookup other <;> rfl

/-! ## Walks -/

section walk

variable {path : String} {here out : List String} {item : Item}

theorem walk_nil : f.walk path here [] = .ok (out, item) ↔ out = here ∧ f.item? here = some item := by
  rw [walk]
  cases f.item? here with
  | none => simp
  | some found => simp [eq_comm]

/-- A walk along two rows of names goes on where the first row leads. -/
theorem walk_append (here names rest : List String) :
    f.walk path here (names ++ rest) = f.walk path here names >>= fun r => f.walk path r.1 rest := by
  induction names generalizing here with
  | nil =>
    rw [List.nil_append]
    cases hitem : f.item? here with
    | some item => rw [walk_nil.mpr ⟨rfl, hitem⟩, bind_ok]
    | none => cases rest <;> simp only [walk, hitem] <;> rfl
  | cons name names ih =>
    rw [List.cons_append, walk, walk]
    cases f.item? here with
    | none => rfl
    | some item =>
      cases item with
      | file bytes => rfl
      | folder =>
        simp only [ih]
        split
        · split <;> rfl
        · rfl

theorem item?_of_walk {names : List String} (hwalk : f.walk path here names = .ok (out, item)) :
    f.item? out = some item := by
  induction names generalizing here with
  | nil =>
    obtain ⟨rfl, hitem⟩ := walk_nil.mp hwalk
    exact hitem
  | cons name names ih =>
    rw [walk] at hwalk
    split at hwalk
    · split at hwalk
      · split at hwalk
        · cases hwalk
        · exact ih hwalk
      · exact ih hwalk
    · cases hwalk
    · cases hwalk

/-- A walk leads to the same place where all folders stay; the text of its path shows in faults only. -/
theorem walk_keeps (hkeeps : ∀ names, f.item? names = some .folder → g.item? names = some .folder)
    {names : List String} {item' : Item} (hwalk : f.walk path here names = .ok (out, item))
    (hitem : g.item? out = some item') (path' : String) : g.walk path' here names = .ok (out, item') := by
  induction names generalizing here with
  | nil =>
    obtain ⟨rfl, -⟩ := walk_nil.mp hwalk
    exact walk_nil.mpr ⟨rfl, hitem⟩
  | cons name names ih =>
    rw [walk] at hwalk
    split at hwalk
    · rename_i hfolder
      rw [walk, hkeeps here hfolder]
      dsimp only
      split at hwalk
      · rename_i hup
        rw [if_pos hup]
        split at hwalk
        · cases hwalk
        · rename_i hempty
          rw [if_neg hempty]
          exact ih hwalk
      · rename_i hup
        rw [if_neg hup]
        exact ih hwalk
    · cases hwalk
    · cases hwalk

end walk

/-- A path leads somewhere if it is relative and the walk along its names does. -/
theorem find_eq_ok_iff {p : Path} {r : List String × Item} :
    f.find p = .ok r ↔ p.isAbsolute = false ∧ f.walk p.text [] p.names = .ok r := by
  rw [find]
  cases p.isAbsolute <;> simp

theorem item?_of_find {p : Path} {names : List String} {item : Item} (hfind : f.find p = .ok (names, item)) :
    f.item? names = some item :=
  item?_of_walk (find_eq_ok_iff.mp hfind).2

/-- A path leads to the same place where all folders stay. -/
theorem find_keeps (hkeeps : ∀ names, f.item? names = some .folder → g.item? names = some .folder) {p : Path}
    {names : List String} {item item' : Item} (hfind : f.find p = .ok (names, item))
    (hitem : g.item? names = some item') : g.find p = .ok (names, item') := by
  obtain ⟨hrelative, hwalk⟩ := find_eq_ok_iff.mp hfind
  exact find_eq_ok_iff.mpr ⟨hrelative, walk_keeps hkeeps hwalk hitem _⟩

/-- A path whose last name is no step upwards leads below where the path before it leads. -/
theorem find_below {p : Path} {names : List String} {name : String} (hlast : p.names.getLast? = some name)
    (hname : name ≠ "..") (hparent : f.find p.parent = .ok (names, .folder)) :
    f.find p = match f.item? (names ++ [name]) with
      | some item => .ok (names ++ [name], item)
      | none => .error (.missing p.text) := by
  obtain ⟨hrelative, hwalk⟩ := find_eq_ok_iff.mp hparent
  have hrelative : p.isAbsolute = false := hrelative
  have hfolder := item?_of_walk hwalk
  have hfront : f.walk p.text [] p.names.dropLast = .ok (names, .folder) :=
    walk_keeps (fun _ h => h) hwalk hfolder _
  obtain ⟨front, hnames⟩ := List.getLast?_eq_some_iff.mp hlast
  rw [hnames, List.dropLast_concat] at hfront
  have hend : f.walk p.text (names ++ [name]) [] = match f.item? (names ++ [name]) with
      | some item => .ok (names ++ [name], item)
      | none => .error (.missing p.text) := by
    cases hitem : f.item? (names ++ [name]) <;> simp only [walk, hitem]
  rw [find, hrelative, if_neg Bool.false_ne_true, hnames, walk_append, hfront, bind_ok, walk, hfolder]
  dsimp only
  rw [if_neg hname, hend]

/-! ## Making folders -/

/-- Where there was nothing, there is **a new folder on the way** along a path: the path or a beginning of it leads
there. -/
def NewOnWay (p : Path) (f g : Folder) (names : List String) : Prop :=
  f.item? names = none ∧ ∃ way, way <+: p.names ∧ g.find { p with names := way } = .ok (names, .folder)

/-- **A folder grew** on the way along a path: everything stays but for new folders on the way. -/
def Grows (p : Path) (f g : Folder) : Prop :=
  ∀ names, g.item? names = f.item? names ∨ NewOnWay p f g names

namespace Grows

variable {p : Path}

theorem refl : Grows p f f :=
  fun _ => .inl rfl

theorem keeps (hgrows : Grows p f g) {names : List String} {item : Item} (hitem : f.item? names = some item) :
    g.item? names = some item := by
  rcases hgrows names with hsame | ⟨hnone, -⟩
  · rw [hsame, hitem]
  · rw [hnone] at hitem
    cases hitem

theorem find_eq (hgrows : Grows p f g) {q : Path} {names : List String} {item : Item}
    (hfind : f.find q = .ok (names, item)) : g.find q = .ok (names, item) :=
  find_keeps (fun _ => hgrows.keeps) hfind (hgrows.keeps (item?_of_find hfind))

theorem trans (hfirst : Grows p f g) (hsecond : Grows p g h) : Grows p f h := by
  intro names
  rcases hsecond names with hsame | ⟨hnone, hway⟩
  · rcases hfirst names with hsame' | ⟨hnone, way, hway, hfind⟩
    · exact .inl (hsame.trans hsame')
    · exact .inr ⟨hnone, way, hway, hsecond.find_eq hfind⟩
  · rcases hfirst names with hsame' | ⟨hnone', way, hway', hfind⟩
    · exact .inr ⟨hsame'.symm.trans hnone, hway⟩
    · exact .inr ⟨hnone', way, hway', hsecond.find_eq hfind⟩

theorem of_parent (hgrows : Grows p.parent f g) : Grows p f g := by
  intro names
  rcases hgrows names with hsame | ⟨hnone, way, hway, hfind⟩
  · exact .inl hsame
  · exact .inr ⟨hnone, way, hway.trans (List.dropLast_prefix _), hfind⟩

end Grows

/-- What stands in a folder at a new place keeps its place when another item is put there. -/
theorem find_put {p : Path} {names target : List String} {item : Item}
    (hne : target ≠ []) (hfolder : f.item? target ≠ some .folder) (hfind : f.find p = .ok (names, item))
    (hother : names ≠ target) (item' : Item) : (f.put target item').find p = .ok (names, item) := by
  refine find_keeps ?_ hfind ?_
  · intro kept hkept
    have hdiff : kept ≠ target := fun heq => hfolder (heq ▸ hkept)
    rw [item?_put hne, if_neg hdiff, hkept]
  · rw [item?_put hne, if_neg hother, item?_of_find hfind]

/-- What is put below the folder to which a path leads stands at the path that ends with its name. -/
theorem find_put_below {p : Path} {names : List String} {name : String} {item : Item}
    (hlast : p.names.getLast? = some name) (hname : name ≠ "..") (hparent : f.find p.parent = .ok (names, .folder))
    (hnew : f.item? (names ++ [name]) ≠ some .folder) :
    (f.put (names ++ [name]) item).find p = .ok (names ++ [name], item) := by
  have hbelow : names ≠ names ++ [name] := by simp
  have hparent' := find_put (by simp) hnew hparent hbelow item
  rw [find_below hlast hname hparent', item?_put (by simp), if_pos rfl]

theorem grows_makeLast {p : Path} (hmade : f.makeLast p = .ok g) : Grows p f g := by
  rw [makeLast] at hmade
  split at hmade
  · cases hmade
    exact .refl
  · cases hmade
  · rename_i fault hfault
    split at hmade
    · rename_i names name hparent hlast
      split at hmade
      · cases hmade
      · rename_i hname
        cases hmade
        have hnone : f.item? (names ++ [name]) = none := by
          rw [find_below hlast hname hparent] at hfault
          split at hfault
          · cases hfault
          · assumption
        intro other
        rw [item?_put (by simp)]
        split
        · rename_i hother
          subst hother
          refine .inr ⟨hnone, p.names, List.prefix_rfl, ?_⟩
          exact find_put_below hlast hname hparent (by simp [hnone])
        · exact .inl rfl
    · cases hmade

/-- Making a folder and the folders on the way to it adds these and changes nothing. -/
theorem grows_makeFolder {p : Path} (hmade : f.makeFolder p = .ok g) : Grows p f g := by
  fun_induction makeFolder f p generalizing g with
  | case1 p names hfind =>
    cases hmade
    exact .refl
  | case2 p names bytes hfind => cases hmade
  | case3 p path hfind hroot => cases hmade
  | case4 p path hfind hroot ih =>
    obtain ⟨between, hbetween, hlast⟩ := bind_eq_ok_iff.mp hmade
    exact (ih hbetween).of_parent.trans (grows_makeLast hlast)
  | case5 p fault hmissing hfind => cases hmade

/-! ## Writing files -/

/-- **A folder gained a file** by its path: the path leads to the file, which holds the bytes and was no folder, and
everything else stays but for new folders on the way. -/
def Gains (p : Path) (bytes : List UInt8) (f g : Folder) : Prop :=
  ∃ target, g.find p = .ok (target, .file bytes) ∧ f.item? target ≠ some .folder ∧
    ∀ names, names ≠ target → g.item? names = f.item? names ∨ NewOnWay p f g names

/-- What a folder gained is read there. -/
theorem Gains.read_eq {p : Path} {bytes : List UInt8} (hgains : Gains p bytes f g) : g.read p = .ok bytes := by
  obtain ⟨target, hfind, -⟩ := hgains
  rw [read, hfind, bind_ok]

/-- Writing a file puts its bytes where its path leads, and changes nothing else. -/
theorem write_spec {p : Path} {bytes : List UInt8} (hwritten : f.write p bytes = .ok g) :
    ∃ target, target ≠ [] ∧ f.item? target ≠ some .folder ∧ g = f.put target (.file bytes) ∧
      g.find p = .ok (target, .file bytes) := by
  rw [write] at hwritten
  split at hwritten
  · cases hwritten
  · rename_i names old hfind
    cases hwritten
    -- the path leads to a file, which is overwritten
    have hold := item?_of_find hfind
    have hne : names ≠ [] := by
      rintro rfl
      cases hold
    have hfile : f.item? names ≠ some .folder := by simp [hold]
    refine ⟨names, hne, hfile, rfl, find_keeps ?_ hfind ?_⟩
    · intro kept hkept
      have hdiff : kept ≠ names := fun heq => hfile (heq ▸ hkept)
      rw [item?_put hne, if_neg hdiff, hkept]
    · rw [item?_put hne, if_pos rfl]
  · rename_i fault hfault
    -- nothing is there: the last name is made in the folder above
    obtain ⟨⟨names, item⟩, hparent, hwritten⟩ := bind_eq_ok_iff.mp hwritten
    cases item with
    | file bytes => cases hwritten
    | folder =>
      dsimp only at hwritten
      split at hwritten
      · rename_i name hlast
        split at hwritten
        · cases hwritten
        · rename_i hname
          cases hwritten
          have hnew : f.item? (names ++ [name]) ≠ some .folder := by
            intro hfolder
            rw [find_below hlast hname hparent, hfolder] at hfault
            cases hfault
          exact ⟨_, by simp, hnew, rfl, find_put_below hlast hname hparent hnew⟩
      · cases hwritten

/-- A folder in which the folders on the way to a file were made before the file was written gained the file. -/
theorem gains_of_write {p : Path} {bytes : List UInt8} (hgrows : Grows p f g) (hwritten : g.write p bytes = .ok h) :
    Gains p bytes f h := by
  obtain ⟨target, hne, hfile, rfl, hfind⟩ := write_spec hwritten
  refine ⟨target, hfind, fun hfolder => hfile (hgrows.keeps hfolder), ?_⟩
  intro names hother
  rw [item?_put hne, if_neg hother]
  rcases hgrows names with hsame | ⟨hnone, way, hway, hfolder⟩
  · exact .inl hsame
  · exact .inr ⟨hnone, way, hway, find_put hne hfile hfolder hother _⟩

end CommandWrap.Folder

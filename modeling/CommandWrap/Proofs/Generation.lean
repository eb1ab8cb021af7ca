import CommandWrap.Program.CommandLine
import CommandWrap.Program.StaticModule
import CommandWrap.Proofs.Folders

/-!
# Generating a module leaves everything or nothing

Two programs generate modules, the command line with its command `generate` and the program that writes a static
module.  Both read a command tree, generate the module and only then print it or write it to a file.

Making the module of a tree file gives its source (`Makes`) or stops with an error that is reported (`Stops`).  The
command line first puts its request together (`CommandLine.Requests`), from settings if they are asked for, and may
fail there as well (`CommandLine.Fails`).

A run is **all or nothing** (`AllOrNothing`): an error that is reported leaves the number 1, no text and the folder as it
was, and a run that succeeds leaves the module, either on the output with the folder as it was, or in the file that was
asked for, which is all that the folder gained.  Both programs are (`CommandLine.run_allOrNothing`,
`StaticModule.run_allOrNothing`), and from one tree file and one list of exclusions they make one source
(`SameModule.makes_iff`).
-/
namespace CommandWrap.Program

variable {s : Surroundings} {f : Folder}

/-! ## Making a module -/

/-- The source of the module that is **made** from a tree file. -/
def Makes (s : Surroundings) (f : Folder) (metadata : Path) (options : ModuleOptions) (source : String) : Prop :=
  ∃ tree, loadTree s f metadata = .ok tree ∧ (CommandGraph.ofTree tree).generate options = .ok source

/-- The message of the reported error at which making a module from a tree file **stops**. -/
inductive Stops (s : Surroundings) (f : Folder) (metadata : Path) (options : ModuleOptions) : String → Prop
  /-- The tree cannot be read. -/
  | tree {e : TreeFileError} (hload : loadTree s f metadata = .error e) (hreported : isReported e = true) :
    Stops s f metadata options e.message
  /-- The module cannot be generated. -/
  | plan {tree : CommandTree} {e : PlanError} (hload : loadTree s f metadata = .ok tree)
    (hgenerate : (CommandGraph.ofTree tree).generate options = .error e) : Stops s f metadata options e.message

section making

variable {metadata : Path} {options : ModuleOptions} {tree : CommandTree}

theorem makes_of_ok (hload : loadTree s f metadata = .ok tree) {source : String} :
    Makes s f metadata options source ↔ (CommandGraph.ofTree tree).generate options = .ok source := by
  constructor
  · rintro ⟨tree', hload', hgenerate⟩
    cases hload.symm.trans hload'
    exact hgenerate
  · intro hgenerate
    exact ⟨tree, hload, hgenerate⟩

/-- There is one source that is made. -/
theorem Makes.unique {source source' : String} (hmakes : Makes s f metadata options source)
    (hmakes' : Makes s f metadata options source') : source = source' := by
  obtain ⟨tree, hload, hgenerate⟩ := hmakes
  exact Except.ok.inj (hgenerate.symm.trans ((makes_of_ok hload).mp hmakes'))

theorem stops_of_error {e : TreeFileError} (hload : loadTree s f metadata = .error e) {message : String} :
    Stops s f metadata options message ↔ isReported e = true ∧ message = e.message := by
  constructor
  · rintro (⟨hload', hreported⟩ | ⟨hload', -⟩)
    · cases hload.symm.trans hload'
      exact ⟨hreported, rfl⟩
    · cases hload.symm.trans hload'
  · rintro ⟨hreported, rfl⟩
    exact .tree hload hreported

theorem stops_of_ok (hload : loadTree s f metadata = .ok tree) {message : String} :
    Stops s f metadata options message ↔
      ∃ e, (CommandGraph.ofTree tree).generate options = .error e ∧ message = e.message := by
  constructor
  · rintro (⟨hload', -⟩ | ⟨hload', hgenerate⟩)
    · cases hload.symm.trans hload'
    · cases hload.symm.trans hload'
      exact ⟨_, hgenerate, rfl⟩
  · rintro ⟨e, hgenerate, rfl⟩
    exact .plan hload hgenerate

/-- **What becomes of a tree file**: an error that is reported, one that is not, or the source of a module. -/
theorem stops_or_makes (s : Surroundings) (f : Folder) (metadata : Path) (options : ModuleOptions) :
    (∃ message, Stops s f metadata options message) ∨
      (∃ e, loadTree s f metadata = .error e ∧ isReported e = false) ∨ ∃ source, Makes s f metadata options source := by
  cases hload : loadTree s f metadata with
  | error e =>
    cases hreported : isReported e with
    | true => exact .inl ⟨e.message, .tree hload hreported⟩
    | false => exact .inr (.inl ⟨e, rfl, hreported⟩)
  | ok tree =>
    cases hgenerate : (CommandGraph.ofTree tree).generate options with
    | error e => exact .inl ⟨e.message, .plan hload hgenerate⟩
    | ok source => exact .inr (.inr ⟨source, tree, hload, hgenerate⟩)

end making

/-! ## What a run leaves -/

/-- A run **reports a failure**: it ends with the number 1, prints nothing, says last why, and changes nothing. -/
structure ReportsFailure (f : Folder) (report : Piece) (out : Output) : Prop where
  exit : out.exit = 1
  stdout : out.stdout = ""
  stderr : out.stderr.getLast? = some report
  folder : out.folder = f

/-- A run **delivers** a source: it prints the source and changes nothing, or its folder gains the file that was asked
for with the source in UTF-8, and what is said about it is all that is printed. -/
def Delivers (f : Folder) (said : Path → String) (output? : Option Path) (source : String) (out : Output) : Prop :=
  match output? with
  | none => out.stdout = source ∧ out.folder = f
  | some path => out.stdout = said path ∧ Folder.Gains path source.toUTF8.toList f out.folder

/-- Can a source be written to the file that was asked for, if one was? -/
def CanWrite (f : Folder) (output? : Option Path) (source : String) : Prop :=
  ∀ path ∈ output?, ∃ g, writeText f path source = .ok g

theorem not_canWrite {path : Path} {source : String} {fault : FileFault} (hwrite : writeText f path source = .error fault) :
    ¬ CanWrite f (some path) source := by
  intro hcan
  obtain ⟨g, hg⟩ := hcan path rfl
  cases hwrite.symm.trans hg

/-- **A run leaves everything or nothing**, for the messages at which it may stop and the sources it may deliver.  There
is no run to speak of where a fault that is not reported ended it. -/
structure AllOrNothing (f : Folder) (stops : String → Prop) (makes : Option Path → String → Prop)
    (report : String → Piece) (said : Path → String) (ran? : Option Output) : Prop where
  /-- An error is reported, and nothing is left. -/
  reports : ∀ message, stops message → ∃ out, ran? = some out ∧ ReportsFailure f (report message) out
  /-- Only errors are reported. -/
  stopped : ∀ out, ran? = some out → out.exit = 1 → ∃ message, stops message
  /-- A run that succeeds delivers a source. -/
  delivers : ∀ out, ran? = some out → out.exit = 0 →
    ∃ output? source, makes output? source ∧ Delivers f said output? source out
  /-- A source that can be written is delivered. -/
  succeeds : ∀ output? source, makes output? source → CanWrite f output? source →
    ∃ out, ran? = some out ∧ out.exit = 0

namespace AllOrNothing

variable {stops : String → Prop} {makes : Option Path → String → Prop} {report : String → Piece}
  {said : Path → String}

/-- A run that reports the one error at which it stops. -/
theorem of_failure (message : String) {out : Output} (hstops : ∀ m, stops m ↔ m = message)
    (hmakes : ∀ output? source, ¬ makes output? source) (hreport : ReportsFailure f (report message) out) :
    AllOrNothing f stops makes report said (some out) where
  reports := by
    intro m hm
    rw [(hstops m).mp hm]
    exact ⟨out, rfl, hreport⟩
  stopped _ _ _ := ⟨message, (hstops message).mpr rfl⟩
  delivers := by
    rintro _ ⟨⟩ hexit
    cases hreport.exit.symm.trans hexit
  succeeds output? source hsource _ := absurd hsource (hmakes output? source)

/-- A run that is refused because the words of its command line are wrong. -/
theorem of_refusal {out : Output} (hstops : ∀ m, ¬ stops m) (hmakes : ∀ output? source, ¬ makes output? source)
    (hexit : out.exit = 2) : AllOrNothing f stops makes report said (some out) where
  reports m hm := absurd hm (hstops m)
  stopped := by
    rintro _ ⟨⟩ hfailed
    cases hexit.symm.trans hfailed
  delivers := by
    rintro _ ⟨⟩ hdone
    cases hexit.symm.trans hdone
  succeeds output? source hsource _ := absurd hsource (hmakes output? source)

/-- A run that a fault ends, where no source can be delivered. -/
theorem of_fault (hstops : ∀ m, ¬ stops m)
    (hmakes : ∀ output? source, makes output? source → ¬ CanWrite f output? source) :
    AllOrNothing f stops makes report said none where
  reports m hm := absurd hm (hstops m)
  stopped := by rintro _ ⟨⟩
  delivers := by rintro _ ⟨⟩
  succeeds output? source hsource hwrite := absurd hwrite (hmakes output? source hsource)

/-- A run that takes every stage of making a module: it reports the error at which that stops, and delivers the source
that is made if it can be written. -/
theorem of_stages {metadata : Path} {options : ModuleOptions} {requested : Option Path} {ran? : Option Output}
    (hstops : ∀ message, Stops s f metadata options message →
      ∃ out, ran? = some out ∧ ReportsFailure f (report message) out)
    (hfault : ∀ e, loadTree s f metadata = .error e → isReported e = false → ran? = none)
    (hmakes : ∀ source, Makes s f metadata options source →
      (∃ out, ran? = some out ∧ out.exit = 0 ∧ Delivers f said requested source out) ∨
        ran? = none ∧ ¬ CanWrite f requested source) :
    AllOrNothing f (Stops s f metadata options)
      (fun output? source => requested = output? ∧ Makes s f metadata options source) report said ran? where
  reports := hstops
  -- the program stops, fails or makes the module; each says what ran, and one agrees with the exit code
  stopped := by
    intro out hout hexit
    rcases stops_or_makes s f metadata options with hstop | ⟨e, hload, hunreported⟩ | ⟨source, hsource⟩
    · exact hstop
    · cases (hfault e hload hunreported).symm.trans hout
    · rcases hmakes source hsource with ⟨out', hout', hdone, -⟩ | ⟨hnone, -⟩
      · cases hout'.symm.trans hout
        cases hdone.symm.trans hexit
      · cases hnone.symm.trans hout
  delivers := by
    intro out hout hexit
    rcases stops_or_makes s f metadata options with ⟨message, hstop⟩ | ⟨e, hload, hunreported⟩ | ⟨source, hsource⟩
    · obtain ⟨out', hout', hreport⟩ := hstops message hstop
      cases hout'.symm.trans hout
      cases hreport.exit.symm.trans hexit
    · cases (hfault e hload hunreported).symm.trans hout
    · rcases hmakes source hsource with ⟨out', hout', -, hdelivers⟩ | ⟨hnone, -⟩
      · cases hout'.symm.trans hout
        exact ⟨requested, source, ⟨rfl, hsource⟩, hdelivers⟩
      · cases hnone.symm.trans hout
  succeeds := by
    rintro _ source ⟨rfl, hsource⟩ hcan
    rcases hmakes source hsource with ⟨out, hout, hdone, -⟩ | ⟨-, hcannot⟩
    · exact ⟨out, hout, hdone⟩
    · exact absurd hcan hcannot

/-- The messages and the sources may be named in another way. -/
theorem congr {stops' : String → Prop} {makes' : Option Path → String → Prop} {ran? : Option Output}
    (hrun : AllOrNothing f stops makes report said ran?) (hstops : ∀ m, stops' m ↔ stops m)
    (hmakes : ∀ output? source, makes' output? source ↔ makes output? source) :
    AllOrNothing f stops' makes' report said ran? := by
  obtain rfl : stops' = stops := funext fun m => propext (hstops m)
  obtain rfl : makes' = makes := funext fun output? => funext fun source => propext (hmakes output? source)
  exact hrun

end AllOrNothing

/-- What is written to a file is what its folder gains. -/
theorem gains_of_writeText {g : Folder} {path : Path} {text : String} (hwrite : writeText f path text = .ok g) :
    Folder.Gains path text.toUTF8.toList f g := by
  obtain ⟨between, hmade, hwritten⟩ := bind_eq_ok_iff.mp hwrite
  exact Folder.gains_of_write (Folder.grows_makeFolder hmade).of_parent hwritten

/-! ## The command line -/

namespace CommandLine

open CommandWrap.Group (Given)

/-- A command line **asks for a module**: behind the global options it names the command that generates one, for which
it gives parameters. -/
def Asks (words : List String) (global given : List Given) : Prop :=
  ∃ left rest more, group.read words = .ok (.run global left) ∧
    group.subcommand left = .ok (some (generateCommand, rest)) ∧ generateCommand.read rest = .ok (.run given more)

/-- The settings that a reference stands for on a command line. -/
def settingsOf (s : Surroundings) (f : Folder) (given : List Given) (ref : String) : Except SettingsError Settings :=
  (Settings.ofReference s f ref
    (Path.ofText ((Group.lastWord? given "config_dir").getD defaultSettingsFolder))
    (Group.allWords given "override")).1

/-- **The request** of the parameters given on a command line, with settings if they are asked for. -/
inductive Requests (s : Surroundings) (f : Folder) (given : List Given) : Request → Prop
  /-- A tree file is given and no settings are. -/
  | plain {metadata : String} (hplain : Group.lastWord? given "config_ref" = none)
    (hmetadata : Group.lastWord? given "metadata" = some metadata) :
    Requests s f given (.ofGiven given none metadata)
  /-- Settings are given. -/
  | settings {ref : String} {settings : Settings} (href : Group.lastWord? given "config_ref" = some ref)
    (hsettings : settingsOf s f given ref = .ok settings) :
    Requests s f given (.ofGiven given (some settings) settings.metadata)

/-- The message of the reported error at which generating a module **fails**, at whichever stage. -/
inductive Fails (s : Surroundings) (f : Folder) (given : List Given) : String → Prop
  /-- The settings cannot be read. -/
  | settings {ref : String} {e : SettingsError} (href : Group.lastWord? given "config_ref" = some ref)
    (hsettings : settingsOf s f given ref = .error e) (hreported : e.isReported = true) : Fails s f given e.message
  /-- The module that is requested cannot be made. -/
  | request {r : Request} {message : String} (hrequest : Requests s f given r)
    (hstops : Stops s f r.metadata r.options message) : Fails s f given message

/-- A source that is **made for** a destination, as it is requested. -/
def MakesFor (s : Surroundings) (f : Folder) (given : List Given) (output? : Option Path) (source : String) : Prop :=
  ∃ r, Requests s f given r ∧ r.output? = output? ∧ Makes s f r.metadata r.options source

/-- What the program leaves when no fault ends it. -/
def Result.ended? (r : Result) : Option Output :=
  match r.fault? with
  | none => some r.output
  | some _ => none

/-- The report of an error. -/
def report (message : String) : Piece :=
  .text ("Error: " ++ message ++ "\n")

/-- A command line that asks for a module generates it. -/
theorem run_of_asks {words : List String} {global given : List Given} (hasks : Asks words global given) (prog : String)
    (library : Library) : ∃ c : Context, c.surroundings = s ∧ c.folder = f ∧
      run prog s f library words = c.generate given := by
  obtain ⟨left, rest, more, hread, hcommand, hgiven⟩ := hasks
  have hwords : words.isEmpty = false := by
    cases words with
    | nil =>
      cases hread
      cases hcommand
    | cons word words => rfl
  refine ⟨⟨s, f, library, levelOf s global, Group.pathBelow prog group "generate"⟩, rfl, rfl, ?_⟩
  rw [run, hwords, if_neg Bool.false_ne_true, hread]
  dsimp only
  rw [hcommand]
  dsimp only
  rw [hgiven]
  rfl

theorem failed_reports (c : Context) (notes : List Log.Note) (message : String) :
    ReportsFailure c.folder (report message) (c.failed notes message).output :=
  ⟨rfl, rfl, List.getLast?_concat, rfl⟩

/-- What is requested is made and delivered, or nothing is. -/
theorem perform_allOrNothing (c : Context) (notes : List Log.Note) (r : Request) :
    AllOrNothing c.folder (Stops c.surroundings c.folder r.metadata r.options)
      (fun output? source => r.output? = output? ∧ Makes c.surroundings c.folder r.metadata r.options source)
      report (fun _ => "") (c.perform notes r).ended? := by
  refine .of_stages ?_ ?_ ?_
  · rintro _ (⟨hload, hreported⟩ | ⟨hload, hgenerate⟩)
    · simp only [Context.perform, hload, Context.treeFailed, hreported, if_true]
      exact ⟨_, rfl, failed_reports c notes _⟩
    · simp only [Context.perform, hload, hgenerate]
      exact ⟨_, rfl, failed_reports c _ _⟩
  · intro e hload hunreported
    simp only [Context.perform, hload, Context.treeFailed, hunreported]
    rfl
  · rintro source ⟨tree, hload, hgenerate⟩
    simp only [Context.perform, hload, hgenerate]
    cases r.output? with
    | none => exact .inl ⟨_, rfl, rfl, rfl, rfl⟩
    | some path =>
      dsimp only
      cases hwrite : writeText c.folder path source with
      | ok folder => exact .inl ⟨_, rfl, rfl, rfl, gains_of_writeText hwrite⟩
      | error fault => exact .inr ⟨rfl, not_canWrite hwrite⟩

theorem requests_of_settings {given : List Given} {ref : String}
    (href : Group.lastWord? given "config_ref" = some ref) {r : Request} :
    Requests s f given r ↔ ∃ settings, settingsOf s f given ref = .ok settings ∧
      r = .ofGiven given (some settings) settings.metadata := by
  constructor
  · rintro (⟨hplain, -⟩ | ⟨href', hsettings⟩)
    · cases href.symm.trans hplain
    · cases href.symm.trans href'
      exact ⟨_, hsettings, rfl⟩
  · rintro ⟨settings, hsettings, rfl⟩
    exact .settings href hsettings

theorem requests_of_plain {given : List Given} (hplain : Group.lastWord? given "config_ref" = none) {r : Request} :
    Requests s f given r ↔ ∃ metadata, Group.lastWord? given "metadata" = some metadata ∧
      r = .ofGiven given none metadata := by
  constructor
  · rintro (⟨-, hmetadata⟩ | ⟨href, -⟩)
    · exact ⟨_, hmetadata, rfl⟩
    · cases hplain.symm.trans href
  · rintro ⟨metadata, hmetadata, rfl⟩
    exact .plain hplain hmetadata

/-- There is one request. -/
theorem requests_iff_eq {given : List Given} {r : Request} (hrequest : Requests s f given r) (r' : Request) :
    Requests s f given r' ↔ r' = r := by
  cases hrequest with
  | plain hplain hmetadata => simp [requests_of_plain hplain, hmetadata]
  | settings href hsettings => simp [requests_of_settings href, hsettings]

/-- Where one request is known, the sources made for a destination are those that it makes. -/
theorem makesFor_iff {given : List Given} {r : Request} (hrequests : ∀ r', Requests s f given r' ↔ r' = r)
    {output? : Option Path} {source : String} :
    MakesFor s f given output? source ↔ r.output? = output? ∧ Makes s f r.metadata r.options source := by
  constructor
  · rintro ⟨r', hrequest', hmakes⟩
    rw [← (hrequests r').mp hrequest']
    exact hmakes
  · intro hmakes
    exact ⟨r, (hrequests r).mpr rfl, hmakes⟩

/-- Where one request is known, generating fails where making what is requested stops. -/
theorem fails_iff_stops {given : List Given} {r : Request} (hrequests : ∀ r', Requests s f given r' ↔ r' = r)
    {message : String} : Fails s f given message ↔ Stops s f r.metadata r.options message := by
  have hrequest : Requests s f given r := (hrequests r).mpr rfl
  constructor
  · rintro (⟨href, hsettings, -⟩ | ⟨hrequest', hstops⟩)
    · obtain ⟨settings, hsettings', -⟩ := (requests_of_settings href).mp hrequest
      cases hsettings.symm.trans hsettings'
    · rw [← (hrequests _).mp hrequest']
      exact hstops
  · intro hstops
    exact .request hrequest hstops

theorem not_makesFor {given : List Given} (hrequests : ∀ r, ¬ Requests s f given r) (output? : Option Path)
    (source : String) : ¬ MakesFor s f given output? source := by
  rintro ⟨r, hrequest, -⟩
  exact hrequests r hrequest

/-- Where there is no request, generating fails at the settings only. -/
theorem fails_iff_settings {given : List Given} (hrequests : ∀ r, ¬ Requests s f given r) {message : String} :
    Fails s f given message ↔ ∃ ref e, Group.lastWord? given "config_ref" = some ref ∧
      settingsOf s f given ref = .error e ∧ e.isReported = true ∧ message = e.message := by
  constructor
  · rintro (⟨href, hsettings, hreported⟩ | ⟨hrequest, -⟩)
    · exact ⟨_, _, href, hsettings, hreported, rfl⟩
    · exact absurd hrequest (hrequests _)
  · rintro ⟨ref, e, href, hsettings, hreported, rfl⟩
    exact .settings href hsettings hreported

/-- With settings, what they are decides how the command that generates a module goes on. -/
theorem generate_of_settings (c : Context) {given : List Given} {ref : String}
    (href : Group.lastWord? given "config_ref" = some ref) : ∃ notes, c.generate given =
      match settingsOf c.surroundings c.folder given ref with
      | .error e => c.settingsFailed notes e
      | .ok settings => c.perform notes (.ofGiven given (some settings) settings.metadata) := by
  rw [Context.generate, href, settingsOf]
  rcases hreference : Settings.ofReference c.surroundings c.folder ref
    (Path.ofText ((Group.lastWord? given "config_dir").getD defaultSettingsFolder))
    (Group.allWords given "override") with ⟨result, notes⟩
  refine ⟨notes, ?_⟩
  cases Group.lastWord? given "metadata" <;> cases result <;> simp only [hreference]

/-- Where the settings cannot be read, nothing is made. -/
theorem settingsFailed_allOrNothing (c : Context) (notes : List Log.Note) {given : List Given} {ref : String}
    {e : SettingsError} (href : Group.lastWord? given "config_ref" = some ref)
    (hsettings : settingsOf c.surroundings c.folder given ref = .error e) :
    AllOrNothing c.folder (Fails c.surroundings c.folder given) (MakesFor c.surroundings c.folder given)
      report (fun _ => "") (c.settingsFailed notes e).ended? := by
  have hnone (r : Request) : ¬ Requests c.surroundings c.folder given r := by
    rw [requests_of_settings href, hsettings]
    rintro ⟨_, ⟨⟩, -⟩
  have hfails (m : String) : Fails c.surroundings c.folder given m ↔ e.isReported = true ∧ m = e.message := by
    rw [fails_iff_settings hnone, href]
    simp [hsettings]
  rw [Context.settingsFailed]
  split
  case isTrue hreported =>
    refine .of_failure e.message ?_ (not_makesFor hnone) (failed_reports c notes _)
    intro m
    rw [hfails, and_iff_right hreported]
  case isFalse hunreported =>
    refine .of_fault ?_ fun _ _ hmakes => absurd hmakes (not_makesFor hnone _ _)
    intro m hm
    exact hunreported ((hfails m).mp hm).1

/-- The command that generates a module delivers all or nothing. -/
theorem generate_allOrNothing (c : Context) (given : List Given) :
    AllOrNothing c.folder (Fails c.surroundings c.folder given) (MakesFor c.surroundings c.folder given)
      report (fun _ => "") (c.generate given).ended? := by
  -- with the request known, all is left to making what is requested
  have hperform {r : Request} (notes : List Log.Note)
      (hrequests : ∀ r', Requests c.surroundings c.folder given r' ↔ r' = r) :
      AllOrNothing c.folder (Fails c.surroundings c.folder given) (MakesFor c.surroundings c.folder given)
        report (fun _ => "") (c.perform notes r).ended? :=
    (perform_allOrNothing c notes r).congr (fun _ => fails_iff_stops hrequests) fun _ _ => makesFor_iff hrequests
  cases href : Group.lastWord? given "config_ref" with
  | none =>
    rw [Context.generate, href]
    cases hmetadata : Group.lastWord? given "metadata" with
    | none =>
      have hnone (r : Request) : ¬ Requests c.surroundings c.folder given r := by
        rw [requests_of_plain href, hmetadata]
        rintro ⟨_, ⟨⟩, -⟩
      refine .of_refusal ?_ (not_makesFor hnone) rfl
      intro m
      rw [fails_iff_settings hnone, href]
      rintro ⟨_, _, ⟨⟩, -⟩
    | some metadata =>
      refine hperform [] fun r' => ?_
      rw [requests_of_plain href, hmetadata]
      simp
  | some ref =>
    obtain ⟨notes, hgenerate⟩ := generate_of_settings c href
    rw [hgenerate]
    cases hsettings : settingsOf c.surroundings c.folder given ref with
    | ok settings =>
      refine hperform notes fun r' => ?_
      rw [requests_of_settings href, hsettings]
      simp
    | error e => exact settingsFailed_allOrNothing c notes href hsettings

/-- **A command line that asks for a module leaves everything or nothing.** -/
theorem run_allOrNothing {words : List String} {global given : List Given} (hasks : Asks words global given)
    (prog : String) (library : Library) :
    AllOrNothing f (Fails s f given) (MakesFor s f given) report (fun _ => "")
      (run prog s f library words).ended? := by
  obtain ⟨c, rfl, rfl, hrun⟩ := run_of_asks (s := s) (f := f) hasks prog library
  rw [hrun]
  exact generate_allOrNothing c given

end CommandLine

/-! ## The program that writes a static module -/

namespace StaticModule

/-- The file of the command tree that is read. -/
def Request.tree (s : Surroundings) (r : Request) : Path :=
  (r.metadata?.map Path.ofText).getD (packagedTree s)

/-- The file that is written, unless the module is printed. -/
def Request.output? (r : Request) : Option Path :=
  if r.prints then none else some (Path.ofText r.output)

/-- The report of an error. -/
def report (message : String) : Piece :=
  .note ⟨.error, logger, "Generation failed: " ++ message⟩

/-- What is said about a file that was written. -/
def Request.said (r : Request) (path : Path) : String :=
  if r.quiet then "" else "Wrote " ++ path.text ++ "\n"

theorem failed_reports (message : String) : ReportsFailure f (report message) (failed f message) :=
  ⟨rfl, rfl, rfl, rfl⟩

/-- **What the program is asked to do leaves everything or nothing.** -/
theorem perform_allOrNothing (r : Request) :
    AllOrNothing f (Stops s f (r.tree s) { exclude := r.exclude })
      (fun output? source => r.output? = output? ∧ Makes s f (r.tree s) { exclude := r.exclude } source)
      report r.said (perform s f r).toOption := by
  rw [perform, ← Request.tree]
  refine .of_stages ?_ ?_ ?_
  · rintro _ (⟨hload, hreported⟩ | ⟨hload, hgenerate⟩)
    · simp only [hload, hreported, if_true]
      exact ⟨_, rfl, failed_reports _⟩
    · simp only [hload, hgenerate]
      exact ⟨_, rfl, failed_reports _⟩
  · intro e hload hunreported
    simp only [hload, hunreported]
    rfl
  · rintro source ⟨tree, hload, hgenerate⟩
    simp only [hload, hgenerate, Request.output?]
    cases r.prints with
    | true => exact .inl ⟨_, rfl, rfl, rfl, rfl⟩
    | false =>
      rw [if_neg Bool.false_ne_true, if_neg Bool.false_ne_true]
      cases hwrite : writeText f (Path.ofText r.output) source with
      | ok folder => exact .inl ⟨_, rfl, rfl, rfl, gains_of_writeText hwrite⟩
      | error fault => exact .inr ⟨rfl, not_canWrite hwrite⟩

/-- **The program leaves everything or nothing**, whatever its words ask for. -/
theorem run_allOrNothing {words : List String} {r : Request} (hwords : Request.ofWords words = .ok r) :
    AllOrNothing f (Stops s f (r.tree s) { exclude := r.exclude })
      (fun output? source => r.output? = output? ∧ Makes s f (r.tree s) { exclude := r.exclude } source)
      report r.said (run s f words).toOption := by
  rw [run, hwords]
  exact perform_allOrNothing r

end StaticModule

/-! ## One source from both programs -/

/-- A docstring that is missing or empty is the docstring that the module gets by itself. -/
theorem generate_without_doc (g : CommandGraph) {options : ModuleOptions} (hdoc : options.doc.getD "" = "") :
    g.generate options = g.generate { options with doc := none } := by
  obtain ⟨runtime, doc, exclude⟩ := options
  have htext (program : String) : ModuleText.docText doc program = ModuleText.docText none program := by
    cases doc with
    | none => rfl
    | some text =>
      obtain rfl : text = "" := hdoc
      rfl
  have hrender (plans : List CommandPlan) : ModuleText.render runtime doc plans = ModuleText.render runtime none plans := by
    cases plans with
    | nil => rfl
    | cons first rest => simp only [ModuleText.render, ModuleText.moduleLines, htext]
  simp only [CommandGraph.generate, hrender]

/-- A request of the command line and one of the program for static modules ask for **the same module**: of one tree
file, with one list of exclusions, and with the helpers and the docstring that a module gets by itself. -/
structure SameModule (s : Surroundings) (request : CommandLine.Request) (r : StaticModule.Request) : Prop where
  tree : request.metadata = r.tree s
  exclude : request.options.exclude = r.exclude
  runtime : request.options.runtime = ModuleText.defaultRuntime
  doc : request.options.doc.getD "" = ""

namespace SameModule

variable {request : CommandLine.Request} {r : StaticModule.Request}

theorem generate_eq (hsame : SameModule s request r) (g : CommandGraph) :
    g.generate request.options = g.generate { exclude := r.exclude } := by
  rw [generate_without_doc g hsame.doc, hsame.exclude, hsame.runtime]

/-- Both programs make the same module. -/
theorem makes_iff (hsame : SameModule s request r) {source : String} :
    Makes s f request.metadata request.options source ↔ Makes s f (r.tree s) { exclude := r.exclude } source := by
  rw [hsame.tree, Makes, Makes]
  simp only [hsame.generate_eq]

/-- Both programs stop at the same errors. -/
theorem stops_iff (hsame : SameModule s request r) {message : String} :
    Stops s f request.metadata request.options message ↔ Stops s f (r.tree s) { exclude := r.exclude } message := by
  rw [hsame.tree]
  cases hload : loadTree s f (r.tree s) with
  | error e => rw [stops_of_error hload, stops_of_error hload]
  | ok tree => rw [stops_of_ok hload, stops_of_ok hload, hsame.generate_eq]

end SameModule

/-- A command line with a tree file and exclusions alone asks for the same module as the other program does. -/
theorem sameModule_of_plain {given : List Group.Given} {request : CommandLine.Request} {r : StaticModule.Request}
    (hrequest : CommandLine.Requests s f given request)
    (hplain : Group.lastWord? given "config_ref" = none)
    (hruntime : (Group.lastWord? given "runtime_module").getD "" = "")
    (hmetadata : Group.lastWord? given "metadata" = r.metadata?)
    (hexclude : Group.allWords given "exclude" = r.exclude) : SameModule s request r := by
  obtain ⟨metadata, hgiven, rfl⟩ := (CommandLine.requests_of_plain hplain).mp hrequest
  refine ⟨?_, ?_, ?_, rfl⟩
  · rw [StaticModule.Request.tree, ← hmetadata, CommandLine.Request.ofGiven, hgiven]
    rfl
  · rw [← hexclude]
    rfl
  · rw [CommandLine.Request.ofGiven]
    cases hgivenRuntime : Group.lastWord? given "runtime_module" with
    | none => rfl
    | some text =>
      rw [hgivenRuntime] at hruntime
      obtain rfl : text = "" := hruntime
      rfl

end CommandWrap.Program

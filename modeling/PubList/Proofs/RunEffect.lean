import PubList.Proofs.DiskWrite

/-!
# What a run does

A run that fails before it writes leaves everything as it was. One that does not fail has one effect:
the text that the entries, the template and the configuration give is in the file that was named, or
was printed, and no other file is touched (`run_effect`). This also holds where the file that is
written is one of those that were read, since all of them are read before.

A program that only reads `Finds` what a relation describes: it leaves the state as it is, and returns
the one value that is described, or fails if there is none. `Finds.bind` carries this along a run.
-/

namespace PubList

/-! ## Surroundings -/

variable {σ : Type}

/-- What can be seen of files by looking for them and by reading them. -/
structure View where
  pathExists : Text → Bool
  readText : Text → Except Text Text

/-- What can be seen in a state. -/
def Host.view (host : Host (StateM σ)) (s : σ) : View where
  pathExists path := ((host.pathExists path).run s).1
  readText path := ((host.readText path).run s).1

/-- A path leads to the same: to something or not, and to a certain text or not. -/
structure View.Alike (files files' : View) (path : Text) : Prop where
  pathExists : files'.pathExists path = files.pathExists path
  readText (t : Text) : files'.readText path = .ok t ↔ files.readText path = .ok t

/-- Files and a standard output for which reading and writing are functions of a state. Reading
changes nothing. Printing changes no file. What is written is read back wherever a path leads to the
file, and other files stay as they are. -/
structure Surroundings (σ : Type) where
  host : Host (StateM σ)
  /-- What has been printed so far. -/
  printed : σ → Text
  /-- Whether two paths lead to the same file, which need not exist. -/
  SameFile : σ → Text → Text → Prop
  pathExists_keeps (path : Text) (s : σ) : ((host.pathExists path).run s).2 = s
  readText_keeps (path : Text) (s : σ) : ((host.readText path).run s).2 = s
  printed_print (text : Text) (s : σ) : printed ((host.print text).run s).2 = printed s ++ text
  alike_print (text : Text) (s : σ) (path : Text) :
    (host.view s).Alike (host.view ((host.print text).run s).2) path
  printed_write (path text : Text) (s : σ) :
    printed ((host.writeText path text).run s).2 = printed s
  sameFile_refl (s : σ) (path : Text) : SameFile s path path
  read_write {path text : Text} {s s' : σ} (h : (host.writeText path text).run s = (.ok (), s'))
    {other : Text} (hother : SameFile s path other) : (host.view s').readText other = .ok text
  alike_write {path text : Text} {s s' : σ} (h : (host.writeText path text).run s = (.ok (), s'))
    {other : Text} (hother : ¬ SameFile s path other) : (host.view s).Alike (host.view s') other

theorem World.run_writeText (path text : Text) (world : World) :
    (World.host.writeText path text).run world = match world.disk.write path text with
      | .ok disk => (.ok (), { world with disk })
      | .error reason => (.error reason, world) := by
  show (match world.disk.write path text with
    | .ok disk => _
    | .error reason => _ : StateM World (Except Text Unit)).run world = _
  cases world.disk.write path text <;> rfl

theorem World.exists_of_writeText {path text : Text} {world world' : World}
    (h : (World.host.writeText path text).run world = (.ok (), world')) :
    ∃ disk, world.disk.write path text = .ok disk ∧ world' = { world with disk } := by
  rw [run_writeText] at h
  cases hwrite : world.disk.write path text with
  | error reason => rw [hwrite] at h; cases h
  | ok disk =>
    rw [hwrite] at h
    cases h
    exact ⟨disk, rfl, rfl⟩

/-- Two paths lead to the same file of a disk if they lead to the same place. -/
def World.surroundings : Surroundings World where
  host := World.host
  printed := World.printed
  SameFile world path other := world.disk.place? other = world.disk.place? path
  pathExists_keeps _ _ := rfl
  readText_keeps _ _ := rfl
  printed_print _ _ := rfl
  alike_print _ _ _ := ⟨rfl, fun _ => Iff.rfl⟩
  printed_write path text world := by
    rw [World.run_writeText]
    cases world.disk.write path text <;> rfl
  sameFile_refl _ _ := rfl
  read_write h _ hother := by
    obtain ⟨disk, hwrite, rfl⟩ := World.exists_of_writeText h
    exact Disk.read_of_write hwrite hother
  alike_write h other hother := by
    obtain ⟨disk, hwrite, rfl⟩ := World.exists_of_writeText h
    have hfind := Disk.find?_of_write_of_ne hwrite hother
    refine ⟨congrArg Option.isSome hfind, fun t => ?_⟩
    show disk.read other = .ok t ↔ _
    rw [Disk.read, hfind]
    rfl

/-! ## What a run is to produce -/

/-- The configuration document of a directory: the first of the files with the known names that
exists. -/
def IsConfigPath (files : View) (directory path : Text) : Prop :=
  files.pathExists path = true ∧
    ∃ before after, Config.fileNames.map (joinPath directory) = before ++ path :: after ∧
      ∀ other ∈ before, files.pathExists other = false

theorem isConfigPath_iff {files : View} {directory path : Text} :
    IsConfigPath files directory path ↔
      (Config.fileNames.map (joinPath directory)).find? files.pathExists = some path := by
  simp only [List.find?_eq_some_iff_append, IsConfigPath, Bool.not_eq_true']

/-- The configuration without options: that of the document of the directory that is named, or the
default one. -/
inductive HasConfig (files : View) : Option Text → Config → Prop
  | default : HasConfig files none {}
  | document {directory path document : Text} {c : Config}
      (isPath : IsConfigPath files directory path) (isText : files.readText path = .ok document)
      (isConfig : Config.read document = .ok c) : HasConfig files (some directory) c

/-- A configuration with options applied on top of it, all of which are accepted. -/
inductive Config.HasOptions (c : Config) : Option Text → Config → Prop
  | none : HasOptions c none c
  | some {options : Text} {next : Config} (applied : c.applyOptions options = (next, .none)) :
      HasOptions c (some options) next

theorem Config.hasOptions_iff {c next : Config} {options : Option Text} :
    c.HasOptions options next ↔ c.withOptions options = .ok next := by
  constructor
  · rintro (_ | happlied)
    · rfl
    · rw [withOptions, happlied]
  · intro h
    cases options with
    | none =>
      cases h
      exact .none
    | some options =>
      rw [withOptions] at h
      split at h
      · cases h
        exact .some ‹_›
      · cases h

/-- The template that is named, or the built-in one. -/
inductive HasTemplate (files : View) : Option Text → Text → Prop
  | builtin : HasTemplate files none Template.builtin
  | file {path template : Text} (isText : files.readText path = .ok template) :
      HasTemplate files (some path) template

/-- What a run goes by. -/
structure Inputs where
  config : Config
  template : Text
  entries : List Entry

/-- The configuration, the template and the entries that the arguments ask for. -/
structure Arguments.Names (args : Arguments) (files : View) (i : Inputs) : Prop where
  config : ∃ c, HasConfig files args.config c ∧ c.HasOptions args.options i.config
  template : HasTemplate files args.template i.template
  entries : ∃ document, files.readText args.entries = .ok document ∧
    readEntries document = .ok i.entries

/-- The text that a run is to produce: the template, rendered for the sorted entries in the groups of
the configuration. -/
def Produces (files : View) (args : Arguments) (text : Text) : Prop :=
  ∃ i, args.Names files i ∧
    Template.render i.config (Group.ofEntries i.config.groupBy i.config.order (sortEntries i.entries))
      i.template = .ok text

theorem Config.groupDocument_eq_ok_iff {c : Config} {document : Text} {groups : List Group} :
    c.groupDocument document = .ok groups ↔ ∃ entries, readEntries document = .ok entries ∧
      Group.ofEntries c.groupBy c.order (sortEntries entries) = groups := by
  unfold groupDocument
  cases readEntries document <;> simp

theorem Config.renderGroups_eq_ok_iff {c : Config} {template text : Text} {groups : List Group} :
    c.renderGroups template groups = .ok text ↔ Template.render c groups template = .ok text := by
  rw [renderGroups_eq]
  cases Template.render c groups template with
  | ok _ => constructor <;> rintro ⟨⟩ <;> rfl
  | error cause => exact iff_of_false (by rintro ⟨⟩) (by rintro ⟨⟩)

/-! ## Programs that only read -/

theorem run_liftM_bind {α β : Type} (y : StateM σ β) (f : β → ExceptT Error (StateM σ) α) (s : σ) :
    (liftM y >>= f).run.run s = (f (y.run s).1).run.run (y.run s).2 := rfl

/-- The program leaves the state as it is, and returns the one value that the relation describes, or
fails if there is none. -/
def Finds {α : Type} (s : σ) (x : ExceptT Error (StateM σ) α) (P : α → Prop) : Prop :=
  ∃ result, x.run.run s = (result, s) ∧ ∀ a, P a ↔ result = .ok a

namespace Finds

variable {α β : Type} {s : σ} {x : ExceptT Error (StateM σ) α} {P Q : α → Prop}

theorem pure (a : α) : Finds s (Pure.pure a) (a = ·) :=
  ⟨.ok a, rfl, fun b => by simp⟩

theorem throw (cause : Error) : Finds s (MonadExcept.throw cause) fun _ : α => False :=
  ⟨.error cause, rfl, fun a => by simp⟩

theorem lift (r : Except Error α) : Finds s (liftExcept r) (r = .ok ·) := by
  cases r with
  | ok a => exact ⟨.ok a, rfl, fun b => by simp⟩
  | error cause => exact ⟨.error cause, rfl, fun a => by simp⟩

theorem congr (h : Finds s x P) (hPQ : ∀ a, P a ↔ Q a) : Finds s x Q := by
  obtain ⟨result, hrun, hresult⟩ := h
  exact ⟨result, hrun, fun a => (hPQ a).symm.trans (hresult a)⟩

theorem bind {f : α → ExceptT Error (StateM σ) β} {R : α → β → Prop} (hx : Finds s x P)
    (hf : ∀ a, P a → Finds s (f a) (R a)) : Finds s (x >>= f) fun b => ∃ a, P a ∧ R a b := by
  obtain ⟨result, hrun, hresult⟩ := hx
  cases result with
  | error cause =>
    refine ⟨.error cause, ?_, fun b => ?_⟩
    · rw [ExceptT.run_bind, StateT.run_bind, hrun]
      rfl
    · simp [hresult]
  | ok a =>
    obtain ⟨result, hrest, hrestresult⟩ := hf a ((hresult a).2 rfl)
    refine ⟨result, ?_, fun b => ?_⟩
    · rw [ExceptT.run_bind, StateT.run_bind, hrun]
      exact hrest
    · simp [hresult, hrestresult]

/-- A question to the surroundings whose answer is known. -/
theorem ask {y : StateM σ β} {b : β} (hy : y.run s = (b, s))
    {f : β → ExceptT Error (StateM σ) α} (hf : Finds s (f b) P) :
    Finds s (liftM y >>= f) P := by
  obtain ⟨result, hrun, hresult⟩ := hf
  refine ⟨result, ?_, hresult⟩
  rw [run_liftM_bind, hy]
  exact hrun

end Finds

/-! ## What a run finds -/

namespace Surroundings

variable (w : Surroundings σ) (s : σ)

theorem run_pathExists (path : Text) :
    (w.host.pathExists path).run s = ((w.host.view s).pathExists path, s) :=
  Prod.ext rfl (w.pathExists_keeps path s)

theorem run_readText (path : Text) :
    (w.host.readText path).run s = ((w.host.view s).readText path, s) :=
  Prod.ext rfl (w.readText_keeps path s)

theorem finds_readFile (path : Text) :
    Finds s (Config.readFile w.host.toFileAccess path)
      ((w.host.view s).readText path = .ok ·) := by
  refine Finds.ask (w.run_readText s path) ?_
  cases (w.host.view s).readText path with
  | ok t => exact (Finds.pure t).congr fun a => by simp
  | error reason => exact (Finds.throw _).congr fun a => by simp

theorem run_findPath? (paths : List Text) :
    (Config.findPath? w.host.toFileAccess paths).run s =
      (paths.find? fun path => (w.host.view s).pathExists path, s) := by
  induction paths with
  | nil => rfl
  | cons path paths ih =>
    rw [Config.findPath?, StateT.run_bind, run_pathExists, List.find?_cons]
    cases hexists : (w.host.view s).pathExists path with
    | true => rfl
    | false => exact ih

theorem finds_load (directory : Text) :
    Finds s (Config.load w.host.toFileAccess directory Config.fileNames) fun document =>
      ∃ path, IsConfigPath (w.host.view s) directory path ∧
        (w.host.view s).readText path = .ok document := by
  refine Finds.ask (w.run_findPath? s _) ?_
  cases hfind : (Config.fileNames.map (joinPath directory)).find? (w.host.view s).pathExists with
  | none =>
    refine (Finds.throw _).congr fun document => ?_
    simp [isConfigPath_iff, hfind]
  | some path =>
    refine (w.finds_readFile s path).congr fun document => ?_
    simp [isConfigPath_iff, hfind]

theorem finds_ofDirectory (directory : Text) :
    Finds s (Config.ofDirectory w.host.toFileAccess directory)
      (HasConfig (w.host.view s) (some directory)) := by
  refine ((w.finds_load s directory).bind (R := fun document c => Config.read document = .ok c)
    fun document _ => ?_).congr fun c => ?_
  · cases Config.read document with
    | ok c => exact (Finds.pure c).congr fun _ => by simp
    | error cause => exact (Finds.throw _).congr fun _ => by simp
  · constructor
    · rintro ⟨document, ⟨path, hpath, htext⟩, hread⟩
      exact .document hpath htext hread
    · rintro (_ | ⟨hpath, htext, hread⟩)
      exact ⟨_, ⟨_, hpath, htext⟩, hread⟩

theorem finds_config (directory : Option Text) :
    Finds s (match directory with
      | some directory => Config.ofDirectory w.host.toFileAccess directory
      | none => pure {}) (HasConfig (w.host.view s) directory) := by
  cases directory with
  | none =>
    refine (Finds.pure _).congr fun c => ⟨?_, ?_⟩
    · rintro rfl
      exact .default
    · rintro ⟨⟩
      rfl
  | some directory => exact w.finds_ofDirectory s directory

theorem finds_runConfig (args : Arguments) :
    Finds s (runConfig w.host.toFileAccess args) fun c =>
      ∃ base, HasConfig (w.host.view s) args.config base ∧ base.HasOptions args.options c := by
  have hrun : runConfig w.host.toFileAccess args = (match args.config with
      | some directory => Config.ofDirectory w.host.toFileAccess directory
      | none => pure {}) >>= fun base => liftExcept (base.withOptions args.options) := by
    rw [runConfig]
    cases args.config <;> rfl
  rw [hrun]
  exact (w.finds_config s args.config).bind fun base _ =>
    (Finds.lift _).congr fun c => Config.hasOptions_iff.symm

theorem finds_template (path : Option Text) :
    Finds s (match path with
      | some path => Config.readFile w.host.toFileAccess path
      | none => pure Template.builtin) (HasTemplate (w.host.view s) path) := by
  cases path with
  | none =>
    refine (Finds.pure _).congr fun template => ⟨?_, ?_⟩
    · rintro rfl
      exact .builtin
    · rintro ⟨⟩
      rfl
  | some path =>
    refine (w.finds_readFile s path).congr fun template => ⟨.file, ?_⟩
    rintro (_ | htext)
    exact htext

/-- What is produced is the one text that the files give. -/
theorem finds_produce (args : Arguments) :
    Finds s (produce w.host.toFileAccess args) (Produces (w.host.view s) args) := by
  have hrun : produce w.host.toFileAccess args = (do
      let c ← runConfig w.host.toFileAccess args
      let template ← (match args.template with
        | some path => Config.readFile w.host.toFileAccess path
        | none => pure Template.builtin : ExceptT Error (StateM σ) Text)
      let document ← Config.readFile w.host.toFileAccess args.entries
      let groups ← liftExcept (c.groupDocument document)
      liftExcept (c.renderGroups template groups)) := by
    rw [produce]
    cases args.template <;> rfl
  rw [hrun]
  refine ((w.finds_runConfig s args).bind fun c _ =>
    (w.finds_template s args.template).bind fun template _ =>
    (w.finds_readFile s args.entries).bind fun document _ =>
    (Finds.lift (c.groupDocument document)).bind fun groups _ =>
    Finds.lift (c.renderGroups template groups)).congr fun text => ?_
  simp only [Config.groupDocument_eq_ok_iff, Config.renderGroups_eq_ok_iff]
  constructor
  · rintro ⟨c, hconfig, template, htemplate, document, htext, _, ⟨entries, hread, rfl⟩, hrender⟩
    exact ⟨⟨c, template, entries⟩, ⟨hconfig, htemplate, document, htext, hread⟩, hrender⟩
  · rintro ⟨⟨c, template, entries⟩, ⟨hconfig, htemplate, document, htext, hread⟩, hrender⟩
    exact ⟨c, hconfig, template, htemplate, document, htext, _, ⟨entries, hread, rfl⟩, hrender⟩

end Surroundings

/-! ## What a run leaves behind -/

/-- How a run ends that has a text. Without an output path the text is printed after what was printed
before, and every path leads to what it led to. Otherwise the text is written, once: if this succeeds,
it is read back at each path that leads to the file, and any other path leads to what it led to; if it
fails, so does the run, with the reason. Nothing is printed then. -/
inductive Surroundings.Delivered (w : Surroundings σ) (s : σ) (text : Text) :
    Option Text → Except Error Unit × σ → Prop
  | printed {s' : σ} (effect : (w.host.print text).run s = ((), s'))
      (printed : w.printed s' = w.printed s ++ text)
      (files : ∀ path, (w.host.view s).Alike (w.host.view s') path) :
      Delivered w s text none (.ok (), s')
  | written {path : Text} {s' : σ} (effect : (w.host.writeText path text).run s = (.ok (), s'))
      (printed : w.printed s' = w.printed s)
      (same : ∀ other, w.SameFile s path other → (w.host.view s').readText other = .ok text)
      (files : ∀ other, ¬ w.SameFile s path other →
        (w.host.view s).Alike (w.host.view s') other) :
      Delivered w s text (some path) (.ok (), s')
  | refused {path reason : Text} {s' : σ}
      (effect : (w.host.writeText path text).run s = (.error reason, s'))
      (printed : w.printed s' = w.printed s) :
      Delivered w s text (some path) (.error (.io reason), s')

theorem Surroundings.delivered_deliver (w : Surroundings σ) (s : σ) (text : Text)
    (output : Option Text) :
    w.Delivered s text output ((deliver w.host output text).run.run s) := by
  cases output with
  | none => exact .printed rfl (w.printed_print text s) (w.alike_print text s)
  | some path =>
    have hprinted := w.printed_write path text s
    rw [deliver, run_liftM_bind]
    rcases hwrite : (w.host.writeText path text).run s with ⟨reason | ⟨⟩, s'⟩
    · rw [hwrite] at hprinted
      exact .refused hwrite hprinted
    · rw [hwrite] at hprinted
      exact .written hwrite hprinted (fun _ => w.read_write hwrite) fun _ => w.alike_write hwrite

/-- **What a run does.** If the files give no text, since a file is missing or cannot be read, or the
configuration, an option, the entries or the blocks of the template are refused, the run fails and
leaves everything as it was. If they give a text, all that the run does is to put this text where it
was asked for, even if it was asked for in a file that was read. -/
theorem run_effect (w : Surroundings σ) (args : Arguments) (s : σ) :
    ((∀ text, ¬ Produces (w.host.view s) args text) →
      ∃ cause, (run w.host args).run.run s = (.error cause, s)) ∧
    ∀ text, Produces (w.host.view s) args text →
      w.Delivered s text args.output ((run w.host args).run.run s) := by
  obtain ⟨result, hproduce, hresult⟩ := w.finds_produce s args
  cases result with
  | error cause =>
    refine ⟨fun _ => ⟨cause, ?_⟩, fun text htext => ?_⟩
    · rw [run, ExceptT.run_bind, StateT.run_bind, hproduce]
      rfl
    · cases (hresult text).1 htext
  | ok found =>
    refine ⟨fun hnone => absurd ((hresult found).2 rfl) (hnone found), fun text htext => ?_⟩
    cases (hresult text).1 htext
    rw [run, ExceptT.run_bind, StateT.run_bind, hproduce]
    exact w.delivered_deliver s found args.output

/-- A directory with a configuration, entries and a template. -/
def World.sample : World where
  disk := ⟨[(["bibplate.yml".toList], .text "\x7b\"usegroup\": false\x7d".toList),
    ([['e']], .text "[\x7b\"key\": \"a\", \"year\": 2020\x7d]".toList),
    ([['t']], .text "@globalkey@: @globalgroupcount@".toList)]⟩

/-- A run that writes its text over the entries that it was made from, and one that does not find its
template. -/
theorem run_effect_in_place :
    (∃ world, World.run .sample
        { entries := ['e'], template := some ['t'], config := some ['.'], output := some ['e'] } =
        (.ok (), world) ∧
      world.disk.read ['e'] = .ok "year: 1".toList ∧
      world.disk.read ['t'] = World.sample.disk.read ['t'] ∧ world.printed = []) ∧
    ∃ cause, World.run .sample { entries := ['e'], template := some ['x'], output := some ['e'] } =
      (.error cause, .sample) := by
  constructor
  · have hpath : IsConfigPath (World.host.view .sample) ['.'] "./bibplate.yml".toList :=
      ⟨by decide, ["./bibplate.json".toList], ["./bibplate.yaml".toList], by decide, by decide⟩
    have hconfig : Config.read "\x7b\"usegroup\": false\x7d".toList =
        .ok { useGroup := false } := by
      have hjson : Config.ofJson? "\x7b\"usegroup\": false\x7d".toList =
          some { useGroup := false } := by decide +kernel
      rw [Config.read, hjson]
    have hentries : readEntries "[\x7b\"key\": \"a\", \"year\": 2020\x7d]".toList =
        .ok [⟨['a'], [(Entry.yearName, "2020".toList)]⟩] := by with_unfolding_all rfl
    have hrender : Template.substitute (Template.globalValue .year (Group.ofEntries .year .descending
          (sortEntries [⟨['a'], [(Entry.yearName, "2020".toList)]⟩])).length)
        "@globalkey@: @globalgroupcount@".toList = "year: 1".toList := by decide +kernel
    have hproduces : Produces (World.host.view .sample)
        { entries := ['e'], template := some ['t'], config := some ['.'], output := some ['e'] }
        "year: 1".toList :=
      ⟨⟨_, _, _⟩, ⟨⟨_, .document hpath rfl hconfig, .none⟩, .file rfl, _, rfl, hentries⟩,
        congrArg Except.ok hrender⟩
    have heffect := (run_effect World.surroundings _ .sample).2 _ hproduces
    generalize hrun : (run World.surroundings.host _).run.run _ = outcome at heffect
    cases heffect with
    | @written _ world _ hprinted hsame hfiles =>
      have hother : ¬ World.surroundings.SameFile .sample ['e'] ['t'] := by
        show ¬ World.sample.disk.place? ['t'] = World.sample.disk.place? ['e']
        decide
      exact ⟨world, hrun, hsame _ rfl, ((hfiles _ hother).readText _).2 rfl, hprinted⟩
    | refused heffect => cases heffect
  · refine (run_effect World.surroundings _ .sample).1 ?_
    rintro text ⟨i, hi, -⟩
    cases hi.template with
    | file htext => cases htext

end PubList

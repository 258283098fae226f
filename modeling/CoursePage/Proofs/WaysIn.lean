import CoursePage.Command.Run
import CoursePage.Files.Disk

/-!
One transformation and three ways in. The library gives the markup of a page, the wrapper writes it
to a file, and the command does either with settings that it reads and overrides. They agree in
what they write and report, and what fails leaves all files alone.
-/

namespace CoursePage

open Encoding (MultiByteDecoders)

variable {σ α : Type}

/-- Reading changes nothing, and neither does a write or a print that fails. -/
structure Files.Careful (files : Files (StateM σ)) : Prop where
  read : ∀ path s, (files.read path s).2 = s
  write : ∀ path bytes s fault, (files.write path bytes s).1 = .error fault →
    (files.write path bytes s).2 = s
  print : ∀ text s fault, (files.print text s).1 = .error fault → (files.print text s).2 = s

theorem StateM.bind_apply {β : Type} (x : StateM σ α) (f : α → StateM σ β) (s : σ) :
    (x >>= f) s = f (x s).1 (x s).2 := rfl

namespace Files.Careful

variable {files : Files (StateM σ)} {s : σ}

/-- What comes after a read goes on from the same files. -/
theorem read_bind (hf : files.Careful) (path : String) (s : σ)
    (next : Except FileFault Bytes → StateM σ α) :
    (files.read path >>= next) s = next (files.read path s).1 s := by
  rw [StateM.bind_apply, hf.read]

end Files.Careful

theorem Except.mapError_eq_ok_iff {ε δ : Type} {f : ε → δ} {x : Except ε α} {a : α} :
    x.mapError f = .ok a ↔ x = .ok a := by
  cases x with
  | error e => constructor <;> intro h <;> cases h
  | ok b => constructor <;> intro h <;> cases h <;> rfl

theorem Settings.ofJson_eq_ok_iff {text : String} {s : Settings} : Settings.ofJson text = .ok s ↔
    Settings.ofJson? text = .ok s ∧ s.validate = .ok () := by
  unfold Settings.ofJson
  cases Settings.ofJson? text with
  | error fault => simp [throw, throwThe, MonadExceptOf.throw]
  | ok read =>
    simp only [bind, Except.bind, pure, Except.pure, Except.ok.injEq]
    cases hv : read.validate with
    | error failure =>
      refine iff_of_false nofun ?_
      rintro ⟨rfl, h⟩
      rw [h] at hv
      cases hv
    | ok =>
      rw [Except.ok.injEq]
      refine ⟨?_, And.left⟩
      rintro rfl
      exact ⟨rfl, hv⟩

namespace Command

/-- Reading that ends early does not end in a run. -/
def NoRun {β : Type} (x : Except Request β) : Prop := ∀ a, x ≠ .error (.run a)

namespace NoRun

variable {β γ : Type} {x : Except Request β}

theorem ok (b : β) : NoRun (.ok b) := by
  intro a h
  cases h

theorem unusable : NoRun (.error .unusable : Except Request β) := by
  intro a h
  cases h

theorem bind {f : β → Except Request γ} (hx : NoRun x) (hf : ∀ b, NoRun (f b)) :
    NoRun (x >>= f) := by
  cases x with
  | error r => exact fun a h => hx a (congrArg _ (Except.error.inj h))
  | ok b => exact hf b

theorem once {α : Type} (old new : Option α) (set : Option α → Draft) :
    NoRun (Draft.once old new set) := by
  unfold Draft.once
  split
  · exact ok _
  · exact unusable

theorem set (d : Draft) (value : String) (s : Setting) : NoRun (d.set value s) := by
  unfold Draft.set
  cases s <;> exact once _ _ _

theorem turnOn (d : Draft) (s : Switch) : NoRun (d.turnOn s) := by
  intro a h
  cases s with
  | help => cases h
  | version => cases h
  | _ =>
    simp only [Draft.turnOn] at h
    split at h <;> cases h

theorem readCluster (d : Draft) (cs : List Char) : NoRun (readCluster d cs) := by
  induction cs generalizing d with
  | nil => exact ok _
  | cons c cs ih =>
    unfold Command.readCluster
    split
    · exact unusable
    · exact (turnOn d _).bind ih
    · split
      · exact ok _
      · exact (set d _ _).bind fun d => ok _
      · exact (set d _ _).bind fun d => ok _

theorem readLong (d : Draft) (cs : List Char) : NoRun (readLong d cs) := by
  unfold Command.readLong
  simp only
  split
  · exact (turnOn d _).bind fun d => ok _
  · exact ok _
  · exact (set d _ _).bind fun d => ok _
  · exact unusable

theorem addInputs (d : Draft) (args : List String) : NoRun (args.foldlM Draft.addInput d) := by
  induction args generalizing d with
  | nil => exact ok _
  | cons arg args ih =>
    rw [List.foldlM_cons]
    exact (once _ _ _).bind ih

theorem readAll (d : Draft) (waiting : Option Setting) (args : List String) :
    NoRun (readAll d waiting args) := by
  induction args generalizing d waiting with
  | nil =>
    unfold Command.readAll
    split
    · exact unusable
    · exact ok _
  | cons arg args ih =>
    unfold Command.readAll
    split
    · split
      · exact unusable
      · exact (set d _ _).bind fun d => ih d none
    · exact addInputs d args
    · exact (readLong d _).bind fun p => ih p.1 p.2
    · exact (readCluster d _).bind fun p => ih p.1 p.2
    · exact (once _ _ _).bind fun d => ih d none

end NoRun

variable {files : Files (StateM σ)} {a : Arguments} {base : Settings} {s : σ}

theorem settingsOf_eq_ok_iff {path : String} {bytes : Bytes} : settingsOf path bytes = .ok base ↔
    ∃ text, Encoding.utf8Text? bytes = some text ∧ Settings.ofJson? text = .ok base ∧
      base.validate = .ok () := by
  rw [settingsOf]
  cases Encoding.utf8Text? bytes with
  | none => simp
  | some text =>
    simp only [Option.some.injEq, exists_eq_left', ← Settings.ofJson_eq_ok_iff]
    exact Except.mapError_eq_ok_iff

/-- The settings before the arguments override them: the defaults, or what a file says if the file
can be read and its settings are sound. -/
def Configures (files : Files (StateM σ)) (a : Arguments) (s : σ) (base : Settings) : Prop :=
  match a.settingsFile with
  | none => base = {}
  | some path => ∃ bytes text, (files.read path s).1 = .ok bytes ∧
      Encoding.utf8Text? bytes = some text ∧ Settings.ofJson? text = .ok base ∧
      base.validate = .ok ()

theorem fileSettings_spec (hf : files.Careful) (a : Arguments) (s : σ) :
    (fileSettings files a s).2 = s ∧
      ∀ base, (fileSettings files a s).1 = .ok base ↔ Configures files a s base := by
  unfold fileSettings Configures
  cases a.settingsFile with
  | none =>
    refine ⟨rfl, fun base => ?_⟩
    have hdefault : ((pure (.ok {}) : StateM σ (Except String Settings)) s).1 = .ok {} := rfl
    rw [hdefault, Except.ok.injEq, eq_comm]
  | some path =>
    simp only
    rw [hf.read_bind]
    cases (files.read path s).1 with
    | error fault =>
      refine ⟨rfl, fun base => ⟨fun h => ?_, ?_⟩⟩
      · cases h
      · rintro ⟨_, _, h, -⟩
        cases h
    | ok bytes =>
      refine ⟨rfl, fun base => ?_⟩
      simp only [Except.ok.injEq, exists_and_left, exists_eq_left']
      exact settingsOf_eq_ok_iff

/-- The settings of a run are those from before, but for the label and the policy that the
arguments give. -/
structure Overrides (a : Arguments) (base c : Settings) : Prop where
  navSelector : c.navbar.navSelector = base.navbar.navSelector
  exerciseSelector : c.navbar.exerciseSelector = base.navbar.exerciseSelector
  idPrefix : c.navbar.idPrefix = base.navbar.idPrefix
  label : c.navbar.label = match a.label with
    | some label => label
    | none => base.navbar.label
  missingNav : c.navbar.missingNav = match a.missingNav with
    | some policy => policy
    | none => base.navbar.missingNav
  tags : c.tags = base.tags

theorem overrides_iff {c : Settings} : Overrides a base c ↔ override a base = c := by
  constructor
  · rintro ⟨hn, he, hi, hl, hm, ht⟩
    obtain ⟨⟨n, e, i, l, m⟩, tags⟩ := c
    simp only at hn he hi hl hm ht
    rw [hn, he, hi, hl, hm, ht, override]
    cases a.label <;> cases a.missingNav <;> rfl
  · rintro rfl
    refine ⟨rfl, rfl, rfl, ?_, ?_, rfl⟩
    · cases h : a.label <;> simp [override, h]
    · cases h : a.missingNav <;> simp [override, h]

theorem loadSettings_spec (hf : files.Careful) (a : Arguments) (s : σ) :
    (loadSettings files a s).2 = s ∧ ∀ c, (loadSettings files a s).1 = .ok c ↔
      ∃ base, Configures files a s base ∧ Overrides a base c ∧ c.validate = .ok () := by
  simp only [overrides_iff]
  obtain ⟨hs, hb⟩ := fileSettings_spec hf a s
  rw [loadSettings, StateM.bind_apply, hs]
  cases hr : (fileSettings files a s).1 with
  | error message =>
    refine ⟨rfl, fun c => iff_of_false nofun ?_⟩
    rintro ⟨base, hc, -⟩
    rw [← hb, hr] at hc
    cases hc
  | ok base =>
    have hbase : ∀ b, Configures files a s b ↔ base = b := by
      intro b
      rw [← hb, hr, Except.ok.injEq]
    simp only [hbase, exists_eq_left']
    cases hv : (override a base).validate with
    | error failure =>
      refine ⟨rfl, fun c => iff_of_false nofun ?_⟩
      rintro ⟨rfl, h⟩
      rw [hv] at h
      cases h
    | ok =>
      refine ⟨rfl, fun c => ⟨fun h => ?_, ?_⟩⟩
      · obtain rfl := Except.ok.inj h
        exact ⟨rfl, hv⟩
      · rintro ⟨rfl, -⟩
        rfl

/-- A report as JSON, one member a line. -/
def reportText (r : Report) : String :=
  "\x7b\n" ++
  "  \"navbar\": \x7b\n" ++
  "    \"sections\": " ++ toString r.navbar.sections ++ ",\n" ++
  "    \"entries\": " ++ toString r.navbar.entries ++ ",\n" ++
  "    \"removed_navs\": " ++ toString r.navbar.removedNavs ++ ",\n" ++
  "    \"id_conflicts\": " ++ toString r.navbar.idConflicts ++ "\n" ++
  "  \x7d,\n" ++
  "  \"tags_replaced\": " ++ toString r.tagsReplaced ++ "\n" ++
  "\x7d\n"

/-- Brings the page to its file, or to standard output where no file is named. -/
def send (files : Files (StateM σ)) (a : Arguments) (html : String) :
    StateM σ (Except FileFault Unit) :=
  match a.output with
  | none => files.print html
  | some path => files.write path html.toUTF8.toList

/-- What a run prints of the markup if it goes well. -/
def shown (a : Arguments) (html : String) : String := if a.output.isSome then "" else html

/-- The files after the report is printed, if that is asked for. -/
def reported (files : Files (StateM σ)) (a : Arguments) (report : Report) (s : σ) : σ :=
  if a.json then (files.print (reportText report) s).2 else s

section

variable [MultiByteDecoders]

/-- All goes well in a run: its settings can be had and are sound, the input can be read, the page
lets itself be transformed, and what is to be written can be written: the markup to its file or
to standard output, and then the report if that is asked for. -/
structure Works (files : Files (StateM σ)) (a : Arguments) (s : σ) (c : Settings) (bytes : Bytes)
    (report : Report) (html : String) : Prop where
  settings : ∃ base, Configures files a s base ∧ Overrides a base c
  sound : c.validate = .ok ()
  input : (files.read a.input s).1 = .ok bytes
  page : (onReady c (.ofBytes bytes)).result = .ok report
  markup : (onReady c (.ofBytes bytes)).tree.toHtml = html
  written : (send files a html s).1 = .ok ()
  reported : a.json = true →
    (files.print (reportText report) (send files a html s).2).1 = .ok ()

namespace Works

variable {c c' : Settings} {bytes bytes' : Bytes} {report report' : Report} {html html' : String}

theorem loadSettings_eq (hf : files.Careful) (h : Works files a s c bytes report html) :
    (loadSettings files a s).1 = .ok c := by
  obtain ⟨base, hb, hc⟩ := h.settings
  exact ((loadSettings_spec hf a s).2 c).mpr ⟨base, hb, hc, h.sound⟩

/-- A run goes well in one way only. -/
theorem unique (hf : files.Careful) (h : Works files a s c bytes report html)
    (h' : Works files a s c' bytes' report' html') :
    c = c' ∧ bytes = bytes' ∧ report = report' ∧ html = html' := by
  obtain rfl := Except.ok.inj ((h.loadSettings_eq hf).symm.trans (h'.loadSettings_eq hf))
  obtain rfl := Except.ok.inj (h.input.symm.trans h'.input)
  exact ⟨rfl, rfl, Except.ok.inj (h.page.symm.trans h'.page), h.markup.symm.trans h'.markup⟩

end Works

end

end Command

end CoursePage

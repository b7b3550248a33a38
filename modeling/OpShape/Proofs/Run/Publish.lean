/-
# `OpShape.Proofs.Run.Publish` — a manifest is written as a whole or not at all.

A disk is a map from paths to contents on which any write and any rename may go wrong.  A write that
goes wrong leaves anything at its path, or nothing; a rename that goes wrong changes nothing.  Each
operation changes at most the contents at its own paths, and the path of a file is never that of its
draft.  So whatever goes wrong, and wherever it does, the file is replaced as a whole or stays as it
was, and no other file but the draft is ever touched.
-/
import Mathlib.Logic.Function.Basic
import OpShape.Publish

namespace OpShape

/-! ## A disk on which things go wrong -/

/-- How an operation goes wrong: what is said about it, and what a write leaves at its path. -/
structure Mishap where
  cause : String
  left : Option ByteArray

/-- The contents of files by their paths, and what goes wrong with the writes and renames to come, in
order. -/
structure FaultyDisk where
  contents : String → Option ByteArray
  mishaps : Nat → Option Mishap

namespace FaultyDisk

/-- The disk with other contents after a write or a rename. -/
def next (disk : FaultyDisk) (contents : String → Option ByteArray) : FaultyDisk where
  contents := contents
  mishaps := fun step => disk.mishaps (step + 1)

/-- Write a text to a path. -/
def write (disk : FaultyDisk) (path text : String) : Except String Unit × FaultyDisk :=
  match disk.mishaps 0 with
  | none => (.ok (), disk.next (Function.update disk.contents path (some text.toUTF8)))
  | some mishap => (.error mishap.cause, disk.next (Function.update disk.contents path mishap.left))

/-- Give a file another path. -/
def rename (disk : FaultyDisk) (source target : String) : Except String Unit × FaultyDisk :=
  match disk.mishaps 0, disk.contents source with
  | none, some bytes =>
    (.ok (),
      disk.next (Function.update (Function.update disk.contents source none) target (some bytes)))
  | none, none => (.error "no such file", disk.next disk.contents)
  | some mishap, _ => (.error mishap.cause, disk.next disk.contents)

/-- Remove a file. -/
def remove (disk : FaultyDisk) (path : String) : Except String Unit × FaultyDisk :=
  match disk.contents path with
  | some _ => (.ok (), { disk with contents := Function.update disk.contents path none })
  | none => (.error "no such file", disk)

/-- The operations on a disk. -/
def ops : FileOps (StateM FaultyDisk) where
  read path := fun disk => ((disk.contents path).elim (.error "no such file") .ok, disk)
  write path text := fun disk => disk.write path text
  rename source target := fun disk => disk.rename source target
  remove path := fun disk => disk.remove path

/-! ## What an operation changes -/

/-- The contents at all other paths stay as they are. -/
def ChangesOnly (paths : List String) (before after : FaultyDisk) : Prop :=
  ∀ path, path ∉ paths → after.contents path = before.contents path

section ChangesOnly

variable {paths : List String} {first second third : FaultyDisk}

theorem ChangesOnly.trans (h : ChangesOnly paths first second)
    (h' : ChangesOnly paths second third) : ChangesOnly paths first third := by
  intro path hpath
  rw [h' path hpath, h path hpath]

theorem ChangesOnly.mono {others : List String} (h : ChangesOnly paths first second)
    (hpaths : ∀ path ∈ paths, path ∈ others) : ChangesOnly others first second :=
  fun path hpath => h path fun hmem => hpath (hpaths path hmem)

end ChangesOnly

variable {disk : FaultyDisk} {path source target : String}

/-- **A write changes nothing but its own file**, whether it succeeds or not. -/
theorem write_cases (disk : FaultyDisk) (path text : String) :
    (disk.mishaps 0 = none ∧ ∃ after, disk.write path text = (.ok (), after) ∧
        after.contents path = some text.toUTF8 ∧ after.mishaps 0 = disk.mishaps 1 ∧
        ChangesOnly [path] disk after) ∨
      ∃ mishap after, disk.mishaps 0 = some mishap ∧
        disk.write path text = (.error mishap.cause, after) ∧ ChangesOnly [path] disk after := by
  have hchanges : ∀ bytes, ChangesOnly [path] disk
      (disk.next (Function.update disk.contents path bytes)) := by
    intro bytes other hother
    exact Function.update_of_ne (fun heq => hother (List.mem_singleton.mpr heq)) _ _
  unfold write
  cases disk.mishaps 0 with
  | none => exact .inl ⟨rfl, _, rfl, Function.update_self _ _ _, rfl, hchanges _⟩
  | some mishap => exact .inr ⟨mishap, _, rfl, rfl, hchanges _⟩

/-- **A rename moves a file as a whole**, or else changes nothing. -/
theorem rename_cases {bytes : ByteArray} (hsource : disk.contents source = some bytes)
    (hne : source ≠ target) :
    (disk.mishaps 0 = none ∧ ∃ after, disk.rename source target = (.ok (), after) ∧
        after.contents target = some bytes ∧ after.contents source = none ∧
        ChangesOnly [target, source] disk after) ∨
      ∃ mishap after, disk.mishaps 0 = some mishap ∧
        disk.rename source target = (.error mishap.cause, after) ∧
        after.contents = disk.contents := by
  unfold rename
  rw [hsource]
  cases disk.mishaps 0 with
  | none =>
    refine .inl ⟨rfl, _, rfl, Function.update_self _ _ _, ?_, ?_⟩
    · exact (Function.update_of_ne hne _ _).trans (Function.update_self _ _ _)
    · intro other hother
      simp only [List.mem_cons, List.not_mem_nil, or_false, not_or] at hother
      exact (Function.update_of_ne hother.1 _ _).trans (Function.update_of_ne hother.2 _ _)
  | some mishap => exact .inr ⟨mishap, _, rfl, rfl, rfl⟩

/-- Where a file is removed there is none, and nothing else changes. -/
theorem remove_contents : (disk.remove path).2.contents path = none := by
  unfold remove
  cases h : disk.contents path with
  | none => exact h
  | some bytes => exact Function.update_self _ _ _

theorem remove_changesOnly : ChangesOnly [path] disk (disk.remove path).2 := by
  intro other hother
  have hne : other ≠ path := fun heq => hother (List.mem_singleton.mpr heq)
  unfold remove
  cases disk.contents path with
  | none => rfl
  | some bytes => exact Function.update_of_ne hne _ _

end FaultyDisk

/-! ## A file and its draft -/

/-- A draft is not a path by itself: its name starts with a dot. -/
theorem startsWith_draft (name : String) : ("." ++ name ++ ".tmp").startsWith "/" = false := by
  rw [Bool.eq_false_iff, Ne, String.startsWith_string_iff]
  rintro ⟨rest, hrest⟩
  simp at hrest

/-- **A file and its draft have different paths.** -/
theorem draftPath_ne_joinPath (dir name : String) : draftPath dir name ≠ joinPath dir name := by
  -- The name of the draft is longer, and what stands before the name stands before it too.
  have hdraft : name.length + 5 ≤ ("." ++ name ++ ".tmp").length := by
    rw [String.length_append, String.length_append]
    show name.length + 5 ≤ 1 + name.length + 4
    omega
  have hlength : (joinPath dir name).length < (draftPath dir name).length := by
    unfold draftPath joinPath
    rw [startsWith_draft, Bool.false_or]
    have hmark : ("/" : String).length = 1 := rfl
    cases dir.isEmpty <;> cases dir.endsWith "/" <;> cases name.startsWith "/" <;>
      simp only [Bool.or_true, Bool.or_false, Bool.false_eq_true, if_true, if_false,
        String.length_append, hmark] at hdraft ⊢ <;> omega
  intro h
  rw [h] at hlength
  exact Nat.lt_irrefl _ hlength

/-! ## What is left behind -/

namespace FaultyDisk

/-- **Where a text is put in the place of a file**: it is there as a whole, the draft is gone and no
other file has changed; or something went wrong, the draft is gone and nothing else has changed. -/
inductive Replaces (disk : FaultyDisk) (dir name text : String) :
    Except String String → FaultyDisk → Prop
  | done {after : FaultyDisk} :
      disk.mishaps 0 = none → disk.mishaps 1 = none →
      after.contents (joinPath dir name) = some text.toUTF8 →
      after.contents (draftPath dir name) = none →
      ChangesOnly [joinPath dir name, draftPath dir name] disk after →
      Replaces disk dir name text (.ok (joinPath dir name)) after
  | undone {cause : String} {after : FaultyDisk} :
      ¬ (disk.mishaps 0 = none ∧ disk.mishaps 1 = none) →
      after.contents (draftPath dir name) = none →
      ChangesOnly [draftPath dir name] disk after →
      Replaces disk dir name text (.error cause) after

section WriteAtomic

variable {disk after : FaultyDisk} {dir name draft path text cause : String}

theorem run_writeDraft_of_ok (h : disk.write draft text = (.ok (), after)) :
    (ops.writeDraft draft path text).run disk = after.rename draft path := by
  have hrun : (ops.write draft text).run disk = (.ok (), after) := h
  unfold FileOps.writeDraft
  rw [StateT.run_bind, hrun]
  rfl

theorem run_writeDraft_of_error (h : disk.write draft text = (.error cause, after)) :
    (ops.writeDraft draft path text).run disk = (.error cause, after) := by
  have hrun : (ops.write draft text).run disk = (.error cause, after) := h
  unfold FileOps.writeDraft
  rw [StateT.run_bind, hrun]
  rfl

theorem run_writeAtomic_of_ok
    (h : (ops.writeDraft (draftPath dir name) (joinPath dir name) text).run disk = (.ok (), after)) :
    (ops.writeAtomic dir name text).run disk = (.ok (joinPath dir name), after) := by
  unfold FileOps.writeAtomic
  rw [StateT.run_bind, h]
  rfl

theorem run_writeAtomic_of_error
    (h : (ops.writeDraft (draftPath dir name) (joinPath dir name) text).run disk =
      (.error cause, after)) :
    (ops.writeAtomic dir name text).run disk =
      (.error cause, (after.remove (draftPath dir name)).2) := by
  unfold FileOps.writeAtomic
  rw [StateT.run_bind, h]
  rfl

end WriteAtomic

/-- **A file is replaced as a whole or not at all**, wherever something goes wrong. -/
theorem writeAtomic_replaces (disk : FaultyDisk) (dir name text : String) :
    ∃ result after, (ops.writeAtomic dir name text).run disk = (result, after) ∧
      Replaces disk dir name text result after := by
  have hne := draftPath_ne_joinPath dir name
  rcases disk.write_cases (draftPath dir name) text with
    ⟨hwrite, written, hwrote, hthere, hnext, hwritten⟩ | ⟨mishap, written, hwrite, hfailed, hwritten⟩
  · rcases rename_cases hthere hne with
      ⟨hrename, after, hrun, htarget, hsource, hchanges⟩ | ⟨mishap, after, hrename, hrun, hcontents⟩
    · refine ⟨_, after, run_writeAtomic_of_ok ((run_writeDraft_of_ok hwrote).trans hrun), ?_⟩
      exact .done hwrite (hnext ▸ hrename) htarget hsource
        ((hwritten.mono (by simp)).trans hchanges)
    · have hsame : ChangesOnly [draftPath dir name] written after :=
        fun other _ => congrFun hcontents other
      refine ⟨_, _, run_writeAtomic_of_error ((run_writeDraft_of_ok hwrote).trans hrun), ?_⟩
      refine .undone (fun h => ?_) remove_contents
        ((hwritten.trans hsame).trans remove_changesOnly)
      rw [← hnext, hrename] at h
      cases h.2
  · refine ⟨_, _, run_writeAtomic_of_error (run_writeDraft_of_error hfailed), ?_⟩
    refine .undone (fun h => ?_) remove_contents (hwritten.trans remove_changesOnly)
    rw [hwrite] at h
    cases h.1

end FaultyDisk

/-! ## Runs -/

section Run

variable {library : ShapeLibrary} {oracle : Oracle} {registry : Registry} {dir name : String}
  {before : FaultyDisk}

theorem run_generateToDir_of_error {error : GenerateError}
    (h : generate library oracle registry = .error error) :
    (generateToDir FaultyDisk.ops library oracle registry dir name).run before =
      (.error error, before) := by
  unfold generateToDir
  rw [h]
  rfl

/-- Where there is a manifest, the rest of the run puts its text in the place of the file. -/
theorem run_generateToDir_of_ok {manifest : Manifest} (dir name : String) (before : FaultyDisk)
    (h : generate library oracle registry = .ok manifest) :
    ∃ result after, FaultyDisk.Replaces before dir name manifest.text result after ∧
      (generateToDir FaultyDisk.ops library oracle registry dir name).run before =
        (result.mapError (.write (joinPath dir name)), after) := by
  obtain ⟨result, after, hrun, hreplaces⟩ :=
    FaultyDisk.writeAtomic_replaces before dir name manifest.text
  refine ⟨result, after, hreplaces, ?_⟩
  unfold generateToDir
  rw [h]
  show ((FaultyDisk.ops.writeAtomic dir name manifest.text) >>= _).run before = _
  rw [StateT.run_bind, hrun]
  cases result <;> rfl

end Run

/-- **A run writes all or nothing**, whatever goes wrong with its writes and renames.  If it
succeeds, there is a manifest, the file holds its text, the draft is gone and no other file has
changed.  If it fails, nothing but the draft has changed, and not even that if there was no
manifest.  It succeeds exactly if there is a manifest and nothing goes wrong. -/
theorem generateToDir_all_or_nothing (library : ShapeLibrary) (oracle : Oracle)
    (registry : Registry) (dir name : String) (before : FaultyDisk) :
    (∀ path after,
        (generateToDir FaultyDisk.ops library oracle registry dir name).run before =
          (.ok path, after) →
        path = joinPath dir name ∧
        (∃ manifest, generate library oracle registry = .ok manifest ∧
          after.contents path = some manifest.text.toUTF8) ∧
        after.contents (draftPath dir name) = none ∧
        ∀ other, other ≠ path → other ≠ draftPath dir name →
          after.contents other = before.contents other) ∧
      (∀ error after,
        (generateToDir FaultyDisk.ops library oracle registry dir name).run before =
          (.error error, after) →
        (∀ other, other ≠ draftPath dir name → after.contents other = before.contents other) ∧
        ∀ found, generate library oracle registry = .error found →
          error = found ∧ after = before) ∧
      ((∃ path after,
          (generateToDir FaultyDisk.ops library oracle registry dir name).run before =
            (.ok path, after)) ↔
        (∃ manifest, generate library oracle registry = .ok manifest) ∧
          before.mishaps 0 = none ∧ before.mishaps 1 = none) := by
  cases h : generate library oracle registry with
  | error found =>
    rw [run_generateToDir_of_error h]
    refine ⟨?_, ?_, ?_, ?_⟩
    · rintro path after ⟨⟩
    · rintro error after ⟨⟩
      refine ⟨fun _ _ => rfl, ?_⟩
      rintro other ⟨⟩
      exact ⟨rfl, rfl⟩
    · rintro ⟨path, after, ⟨⟩⟩
    · rintro ⟨⟨manifest, ⟨⟩⟩, -⟩
  | ok manifest =>
    obtain ⟨result, after, hreplaces, hrun⟩ :=
      run_generateToDir_of_ok dir name before h
    rw [hrun]
    cases hreplaces with
    | done hwrite hrename hfile hdraft hchanges =>
      refine ⟨?_, ?_, fun _ => ⟨⟨manifest, rfl⟩, hwrite, hrename⟩, fun _ => ⟨_, _, rfl⟩⟩
      · rintro path after ⟨⟩
        refine ⟨rfl, ⟨manifest, rfl, hfile⟩, hdraft, ?_⟩
        intro other hpath hother
        exact hchanges other (by simp [hpath, hother])
      · rintro error after ⟨⟩
    | undone hmishap hdraft hchanges =>
      refine ⟨?_, ?_, ?_, ?_⟩
      · rintro path after ⟨⟩
      · rintro error after ⟨⟩
        refine ⟨fun other hother => hchanges other (by simp [hother]), ?_⟩
        rintro found ⟨⟩
      · rintro ⟨path, after, ⟨⟩⟩
      · rintro ⟨-, hnone⟩
        exact absurd hnone hmishap

end OpShape

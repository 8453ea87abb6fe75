/-
This file says where the content of a mounted snapshot is. The first path that a snapshot saved is
written below the directory of the snapshot with its leading slashes cut off, so it never stands for
itself: however that path is spelled, the content lies within the mount. Where the agent made the
snapshot, that is the whole path that it saved, below the directory of the snapshot.
-/

import NodeAgent.Proofs.Points
import NodeAgent.Proofs.Templates
import NodeAgent.Proofs.Trimming

namespace NodeAgent

namespace Path

variable {base next directory : Path} {text : List Char}

theorem text_join_ne_empty (given : base.text ≠ "") (relative : next.isAbsolute = false) :
    (base.join next).text ≠ "" := by
  intro empty
  have letters := congrArg String.toList empty
  rw [text_join relative, String.append_assoc, String.toList_append, String.toList_empty,
    List.append_eq_nil_iff] at letters
  exact given (String.toList_eq_nil_iff.1 letters.1)

theorem steps_cons_slash (text : List Char) :
    (Path.mk (String.ofList ('/' :: text))).steps = (Path.mk (String.ofList text)).steps := by
  unfold steps
  dsimp only
  rw [String.toList_ofList, String.toList_ofList, Text.splitAt, if_pos rfl, List.filterMap_cons]
  rfl

/-- Slashes at the beginning are no steps. -/
theorem steps_replicate_slash (slashes : Nat) (text : List Char) :
    (Path.mk (String.ofList (List.replicate slashes '/' ++ text))).steps =
      (Path.mk (String.ofList text)).steps := by
  induction slashes with
  | zero => rfl
  | succ slashes inductionHypothesis =>
    rw [List.replicate_succ, List.cons_append, steps_cons_slash, inductionHypothesis]

theorem steps_dropWhile_slash (text : List Char) :
    (Path.mk (String.ofList (text.dropWhile (· = '/')))).steps =
      (Path.mk (String.ofList text)).steps := by
  induction text with
  | nil => rfl
  | cons c rest inductionHypothesis =>
    by_cases slash : c = '/'
    · rw [slash, steps_cons_slash, ← inductionHypothesis]
      rfl
    · rw [List.dropWhile_cons, if_neg (by rwa [decide_eq_true_eq])]

theorem isAbsolute_dropWhile_slash (text : List Char) :
    (Path.mk (String.ofList (text.dropWhile (· = '/')))).isAbsolute = false := by
  refine decide_eq_false fun begins => ?_
  dsimp only at begins
  rw [String.toList_ofList] at begins
  have stays := Text.head?_dropWhile (· = '/') text '/' begins
  cases stays

/-- A directory with components behind it, one after another. -/
def followedBy (directory : Path) (components : List Component) : Path :=
  components.foldl (fun path component => path.entry (String.ofList component.text)) directory

theorem components_foldl_entry {steps : List Component} (given : directory.text ≠ "")
    (proper : ∀ step ∈ steps, '/' ∉ step.text ∧ Component.ofPiece? step.text = some step) :
    (directory.followedBy steps).components = directory.components ++ steps := by
  induction steps generalizing directory with
  | nil => exact (List.append_nil _).symm
  | cons step rest inductionHypothesis =>
    obtain ⟨⟨noSlash, made⟩, others⟩ := List.forall_mem_cons.1 proper
    have plain : '/' ∉ (String.ofList step.text).toList := by rwa [String.toList_ofList]
    have entered : (directory.entry (String.ofList step.text)).components =
        directory.components ++ [step] := by
      rw [components_entry given plain, String.toList_ofList, made]
      rfl
    have named : (directory.entry (String.ofList step.text)).text ≠ "" :=
      text_join_ne_empty given (isAbsolute_of_plain plain)
    exact (inductionHypothesis named others).trans (by rw [entered, List.append_assoc]; rfl)

/-- The components of a relative path are its steps behind a directory; a dot at its beginning
stands for the directory. -/
theorem components_followedBy (given : directory.text ≠ "") (relative : next.isAbsolute = false) :
    (directory.followedBy next.components).components = directory.components ++ next.steps := by
  have proper : ∀ step ∈ next.steps,
      '/' ∉ step.text ∧ Component.ofPiece? step.text = some step := fun _ => of_mem_steps
  rw [components_of_relative relative]
  split
  · have dotted : (directory.entry ".").components = directory.components :=
      (components_entry given (by decide)).trans (List.append_nil _)
    have named : (directory.entry ".").text ≠ "" := text_join_ne_empty given (by decide)
    exact (components_foldl_entry named proper).trans (by rw [dotted])
  · exact components_foldl_entry given proper

end Path

namespace Tools.Repositories

variable {mountPoint : Path} {snapshot : Snapshot}

/-- The directory of a snapshot below the point where its repository is mounted. -/
def snapshotDirectory (mountPoint : Path) (snapshot : Snapshot) : Path :=
  (mountPoint.entry "ids").entry snapshot.shortId

theorem text_snapshotDirectory_ne_empty (mountPoint : Path)
    (plain : '/' ∉ snapshot.shortId.toList) :
    (snapshotDirectory mountPoint snapshot).text ≠ "" :=
  Path.text_join_ne_empty (Path.text_entry_ne_empty (by decide) (by decide))
    (Path.isAbsolute_of_plain plain)

theorem components_snapshotDirectory (plain : '/' ∉ snapshot.shortId.toList) :
    (snapshotDirectory mountPoint snapshot).components =
      mountPoint.components ++ .name "ids".toList :: (Path.mk snapshot.shortId).steps := by
  have ids : (mountPoint.entry "ids").components =
      mountPoint.components ++ [.name "ids".toList] :=
    Path.components_entry_of_name (by decide) rfl
  unfold snapshotDirectory
  rw [Path.components_entry (Path.text_entry_ne_empty (by decide) (by decide)) plain, ids,
    Path.steps_of_plain plain, List.append_assoc]
  rfl

/-- What a snapshot saved of its first path lies behind its directory, also where the path begins
at the root. -/
theorem components_contentDirectory (plain : '/' ∉ snapshot.shortId.toList) {path : String}
    (first : snapshot.paths.head? = some path) :
    (contentDirectory mountPoint snapshot).components =
      (snapshotDirectory mountPoint snapshot).components ++ (Path.mk path).steps := by
  have joined := Path.components_join (text_snapshotDirectory_ne_empty mountPoint plain)
    (Path.isAbsolute_dropWhile_slash path.toList)
  rw [Path.steps_dropWhile_slash, String.ofList_toList] at joined
  unfold contentDirectory
  dsimp only
  rw [first]
  exact joined

theorem contentDirectory_of_no_path (none : snapshot.paths = []) :
    contentDirectory mountPoint snapshot = snapshotDirectory mountPoint snapshot := by
  unfold contentDirectory
  rw [none]
  rfl

/-- A snapshot of what a backup saved: its first path is the place that the backup program was
told last. -/
def Saved (invocation : Invocation) (snapshot : Snapshot) : Prop :=
  ∃ source recorded, invocation.arguments.getLast? = some source ∧
    snapshot.paths.head? = some recorded ∧ (Path.mk recorded).same ⟨source⟩ = true

/-- Whatever a snapshot says that it saved: its content lies within the directory of the snapshot,
and so within the mount. It is the first saved path without its leading slashes, seen from that
directory. Where a backup of the agent saved an absolute path, it is all of that path behind the
root. And a mount that comes out well answers with this directory. -/
theorem content_within_mount (mountPoint : Path) (snapshot : Snapshot)
    (plain : '/' ∉ snapshot.shortId.toList) :
    let directory := snapshotDirectory mountPoint snapshot
    let content := contentDirectory mountPoint snapshot
    directory.components =
        mountPoint.components ++ .name "ids".toList :: (Path.mk snapshot.shortId).steps ∧
      content.isWithin directory = true ∧
      (snapshot.paths = [] → content = directory) ∧
      (∀ (path : String) (others : List String) (slashes : Nat) (rest : List Char),
        snapshot.paths = path :: others → path.toList = List.replicate slashes '/' ++ rest →
        rest.head? ≠ some '/' →
        content.same (directory.followedBy (Path.mk (String.ofList rest)).components) = true) ∧
      (∀ (destination : Destination) (host volume : String) (source : Path) (time : Timestamp),
        source.isAbsolute = true → Saved (saving destination host volume source time) snapshot →
        ∃ names, source.components = .root :: names ∧
          content.components = directory.components ++ names) ∧
      ∀ (usage : Usage) (destination : Destination) (heard : List (Exchange NodeAgent.host))
        (answered : Path) (child : Child),
        Dialogue.Held (ExceptT.run (mount usage destination snapshot mountPoint)) heard
          (.ok (answered, child)) → answered = content := by
  refine ⟨components_snapshotDirectory plain, ?_, contentDirectory_of_no_path, ?_, ?_,
    fun usage destination heard answered child held => eq_contentDirectory_of_held held⟩
  · unfold Path.isWithin
    rw [List.isPrefixOf_iff_prefix]
    cases first : snapshot.paths with
    | nil => rw [contentDirectory_of_no_path first]
    | cons path others =>
      rw [components_contentDirectory plain (by rw [first]; rfl)]
      exact List.prefix_append _ _
  · intro path others slashes rest first split begins
    have relative : (Path.mk (String.ofList rest)).isAbsolute = false :=
      decide_eq_false (by dsimp only; rwa [String.toList_ofList])
    have whole : Path.mk path = Path.mk (String.ofList (List.replicate slashes '/' ++ rest)) := by
      rw [← split, String.ofList_toList]
    refine decide_eq_true ?_
    rw [components_contentDirectory plain (by rw [first]; rfl), whole, Path.steps_replicate_slash,
      Path.components_followedBy (text_snapshotDirectory_ne_empty _ plain) relative]
  · rintro destination host volume source time absolute ⟨told, recorded, last, first, same⟩
    cases last
    have root := Path.components_of_isAbsolute (Path.isAbsolute_of_same same absolute)
    have recordedSame : (Path.mk recorded).components = source.components := of_decide_eq_true same
    refine ⟨(Path.mk recorded).steps, by rw [← recordedSame, root], ?_⟩
    exact components_contentDirectory plain first

end Tools.Repositories

namespace Memory

open Tools Tools.Repositories

/-- A snapshot of a path that is written with more slashes than it needs. -/
def slashedSnapshot : Snapshot :=
  ⟨"r", "0123456789", "01234567", ⟨0⟩, ["//var/./staging//pg/"]⟩

/-- What a host is asked to mount it. -/
def mountingSlashed : Dialogue host (Except Failure (Path × Child)) :=
  ExceptT.run (mount ⟨"node-a", 1000⟩ ⟨"r", .empty⟩ slashedSnapshot ⟨"/mnt/snap"⟩)

/-- A host on which the content of that snapshot appears at once. -/
def slashedHost : ScriptedHost :=
  .begin [.hangs] [⟨"/mnt/snap/ids/01234567/var/staging/pg"⟩]

/-- The host mounts the snapshot of a path with superfluous slashes, and what it says to be the
content lies within the mount, where the path without them would be. -/
theorem slashes_stay_within_mount :
    '/' ∉ slashedSnapshot.shortId.toList ∧
      Saved (saving ⟨"r", .empty⟩ "node-a" "pg" ⟨"/var/staging/pg"⟩ (.ofInstant ⟨0⟩))
        slashedSnapshot ∧
      ∃ heard content child, Dialogue.Held mountingSlashed heard (.ok (content, child)) ∧
        content.isWithin ⟨"/mnt/snap/ids/01234567"⟩ = true ∧
        content.same ((snapshotDirectory ⟨"/mnt/snap"⟩ slashedSnapshot).followedBy
          (Path.mk (String.ofList "var/./staging//pg/".toList)).components) = true ∧
        content.same ⟨"/mnt/snap/ids/01234567/var/staging/pg"⟩ = true := by
  have plain : '/' ∉ slashedSnapshot.shortId.toList := by decide
  have saved : Saved (saving ⟨"r", .empty⟩ "node-a" "pg" ⟨"/var/staging/pg"⟩ (.ofInstant ⟨0⟩))
      slashedSnapshot := ⟨_, _, rfl, rfl, by decide⟩
  obtain ⟨heard, held, _⟩ := slashedHost.held_and_started (fun _ => True) mountingSlashed
  have mounts : (slashedHost.hold mountingSlashed).1 =
      .ok (⟨"/mnt/snap/ids/01234567/var/./staging//pg/"⟩, ⟨0⟩) := by decide +kernel
  rw [mounts] at held
  obtain ⟨_, within, _, spelled, whole, answered⟩ :=
    content_within_mount ⟨"/mnt/snap"⟩ slashedSnapshot plain
  have content := answered _ _ _ _ _ held
  have shortened := spelled _ _ 2 "var/./staging//pg/".toList rfl (by decide) (by decide)
  refine ⟨plain, saved, heard, _, _, held, content ▸ within, content ▸ shortened, ?_⟩
  obtain ⟨names, root, behind⟩ := whole ⟨"r", .empty⟩ "node-a" "pg" ⟨"/var/staging/pg"⟩
    (.ofInstant ⟨0⟩) (by decide) saved
  rw [content]
  refine decide_eq_true (behind.trans ?_)
  obtain rfl : [.name "var".toList, .name "staging".toList, .name "pg".toList] = names :=
    List.cons_injective root
  decide

end Memory

end NodeAgent

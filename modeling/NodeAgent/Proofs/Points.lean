/-
This file says that the places which the agent makes up for volumes are kept apart. A volume id is
one component, and none that begins with a dot, so the mount points of two volumes and of their
snapshots lie below the staging path and none of them is or lies within another. The devices of two
volumes of a pool differ too, since the name of a device ends in the name of its volume.
-/

import Mathlib.Data.List.Infix
import NodeAgent.Agent
import NodeAgent.Proofs.Paths

namespace NodeAgent

/-! ### Below one directory -/

namespace Path

variable {directory first second : Path} {front rest : List Component}

/-- Of two paths that begin alike one lies within the other where the rest of it does. -/
theorem isWithin_iff_of_components (begins : first.components = directory.components ++ front)
    (alike : second.components = directory.components ++ rest) :
    first.isWithin second = true ↔ rest <+: front := by
  unfold isWithin
  rw [begins, alike, List.isPrefixOf_iff_prefix, List.prefix_append_right_inj]

/-- Neither of two paths is the other one or lies within it. -/
structure Apart (first second : Path) : Prop where
  different : first.same second = false
  outside : first.isWithin second = false
  around : second.isWithin first = false

theorem apart_of_components (begins : first.components = directory.components ++ front)
    (alike : second.components = directory.components ++ rest) (outside : ¬rest <+: front)
    (around : ¬front <+: rest) : first.Apart second where
  different := decide_eq_false fun same => by
    rw [begins, alike, List.append_cancel_left_eq] at same
    exact outside (same ▸ List.prefix_refl _)
  outside := Bool.eq_false_iff.2 fun within =>
    outside ((isWithin_iff_of_components begins alike).1 within)
  around := Bool.eq_false_iff.2 fun within =>
    around ((isWithin_iff_of_components alike begins).1 within)

/-- Whether a path lies within another one and is not that one. -/
structure Below (path directory : Path) : Prop where
  inside : path.isWithin directory = true
  different : path.same directory = false

theorem below_of_components (begins : first.components = directory.components ++ front)
    (given : front ≠ []) : first.Below directory where
  inside := by
    have alike : directory.components = directory.components ++ [] := (List.append_nil _).symm
    exact (isWithin_iff_of_components begins alike).2 List.nil_prefix
  different := decide_eq_false fun same => by
    rw [begins] at same
    exact given (List.append_right_eq_self.1 same)

end Path

/-! ### Mount points -/

namespace Settings

variable (settings : Settings) {volume other : String}

theorem components_volumePoint (valid : checkVolumeId volume = .ok ()) :
    (settings.volumePoint volume).components =
      settings.staging.components ++ [.name volume.toList] := by
  obtain ⟨noSlash, piece⟩ := piece_of_checkVolumeId valid
  exact Path.components_entry_of_name noSlash piece

theorem components_snapshotPoint (valid : checkVolumeId volume = .ok ()) :
    (settings.snapshotPoint volume).components =
      settings.staging.components ++ [.name ".snapshots".toList, .name volume.toList] := by
  obtain ⟨noSlash, piece⟩ := piece_of_checkVolumeId valid
  have hidden : (settings.staging.entry ".snapshots").components =
      settings.staging.components ++ [.name ".snapshots".toList] :=
    Path.components_entry_of_name (by decide) rfl
  unfold snapshotPoint
  rw [Path.components_entry_of_name noSlash piece, hidden, List.append_assoc]
  rfl

/-- No volume has the name of the directory for snapshots. -/
theorem ne_snapshots_of_checkVolumeId (valid : checkVolumeId volume = .ok ()) :
    Path.Component.name volume.toList ≠ .name ".snapshots".toList := by
  intro same
  have named : volume = ".snapshots" := String.toList_injective (Path.Component.name.inj same)
  subst named
  exact absurd valid (by decide)

theorem apart_volumePoints (valid : checkVolumeId volume = .ok ())
    (otherValid : checkVolumeId other = .ok ()) (different : volume ≠ other) :
    (settings.volumePoint volume).Apart (settings.volumePoint other) := by
  have names : Path.Component.name volume.toList ≠ .name other.toList := fun same =>
    different (String.toList_injective (Path.Component.name.inj same))
  refine Path.apart_of_components (settings.components_volumePoint valid)
    (settings.components_volumePoint otherValid) ?_ ?_
  · exact fun within => names.symm (List.cons_prefix_cons.1 within).1
  · exact fun within => names (List.cons_prefix_cons.1 within).1

theorem apart_snapshotPoints (valid : checkVolumeId volume = .ok ())
    (otherValid : checkVolumeId other = .ok ()) (different : volume ≠ other) :
    (settings.snapshotPoint volume).Apart (settings.snapshotPoint other) := by
  have names : Path.Component.name volume.toList ≠ .name other.toList := fun same =>
    different (String.toList_injective (Path.Component.name.inj same))
  refine Path.apart_of_components (settings.components_snapshotPoint valid)
    (settings.components_snapshotPoint otherValid) ?_ ?_
  · intro within
    exact names.symm (List.cons_prefix_cons.1 (List.cons_prefix_cons.1 within).2).1
  · intro within
    exact names (List.cons_prefix_cons.1 (List.cons_prefix_cons.1 within).2).1

/-- A volume and a snapshot are mounted apart, also where the snapshot is of the same volume. -/
theorem apart_volumePoint_snapshotPoint (valid : checkVolumeId volume = .ok ())
    (otherValid : checkVolumeId other = .ok ()) :
    (settings.volumePoint volume).Apart (settings.snapshotPoint other) := by
  have names := ne_snapshots_of_checkVolumeId valid
  refine Path.apart_of_components (settings.components_volumePoint valid)
    (settings.components_snapshotPoint otherValid) ?_ ?_
  · exact fun within => names.symm (List.cons_prefix_cons.1 within).1
  · exact fun within => names (List.cons_prefix_cons.1 within).1

theorem below_volumePoint (valid : checkVolumeId volume = .ok ()) :
    (settings.volumePoint volume).Below settings.staging :=
  Path.below_of_components (settings.components_volumePoint valid) (List.cons_ne_nil _ _)

theorem below_snapshotPoint (valid : checkVolumeId volume = .ok ()) :
    (settings.snapshotPoint volume).Below settings.staging :=
  Path.below_of_components (settings.components_snapshotPoint valid) (List.cons_ne_nil _ _)

end Settings

/-! ### Devices -/

/-- The device of a volume with a valid id is named for the volume. -/
theorem fileName?_devicePath {volume : String} (valid : checkVolumeId volume = .ok ())
    (group : String) : (devicePath group volume).fileName? = some volume := by
  obtain ⟨noSlash, piece⟩ := piece_of_checkVolumeId valid
  have text : (devicePath group volume).text.toList =
      ("/dev/".toList ++ group.toList) ++ '/' :: volume.toList := by
    have read : (devicePath group volume).text = "/dev/" ++ group ++ "/" ++ volume := rfl
    rw [read, String.toList_append, String.toList_append, String.toList_append, List.append_assoc]
    rfl
  have last : (devicePath group volume).components.getLast? = some (.name volume.toList) := by
    unfold Path.components
    rw [text, Path.componentsOf_append_slash, Text.splitAt_of_not_mem noSlash, List.filterMap_cons,
      piece]
    exact List.getLast?_concat
  unfold Path.fileName?
  rw [last]
  exact congrArg some String.ofList_toList

/-- Different volumes have different devices. -/
theorem different_devices {volume other : String} (valid : checkVolumeId volume = .ok ())
    (otherValid : checkVolumeId other = .ok ()) (different : volume ≠ other) (group : String) :
    (devicePath group volume).same (devicePath group other) = false := by
  refine decide_eq_false fun same => different ?_
  have names : (devicePath group volume).fileName? = (devicePath group other).fileName? := by
    unfold Path.fileName?
    rw [same]
  rw [fileName?_devicePath valid, fileName?_devicePath otherValid] at names
  exact Option.some.inj names

/-- The places made up for two volumes. -/
def Settings.pointsFor (settings : Settings) (volume other : String) : List Path :=
  [settings.volumePoint volume, settings.volumePoint other,
    settings.snapshotPoint volume, settings.snapshotPoint other]

/-- Whatever the staging path and the pool are: for two volumes with valid ids the mount points of
both and of their snapshots lie below the staging path, no two of them are the same place and none
lies within another, and the volumes have different devices, which are named for them. -/
theorem volume_names_kept_apart (settings : Settings) {volume other : String}
    (valid : checkVolumeId volume = .ok ()) (otherValid : checkVolumeId other = .ok ())
    (different : volume ≠ other) :
    (settings.pointsFor volume other).Pairwise Path.Apart ∧
      (∀ point ∈ settings.pointsFor volume other, point.Below settings.staging) ∧
      ∀ (path : String) (pool : ThinPool), ThinPool.read path = .ok pool →
        (pool.device volume).same (pool.device other) = false ∧
          (pool.device volume).fileName? = some volume := by
  refine ⟨?_, ?_, fun path pool _ => ⟨different_devices valid otherValid different pool.group,
    fileName?_devicePath valid pool.group⟩⟩
  · refine .cons ?_ (.cons ?_ (.cons ?_ (.cons nofun .nil)))
    · exact List.forall_mem_cons.2 ⟨settings.apart_volumePoints valid otherValid different,
        List.forall_mem_cons.2 ⟨settings.apart_volumePoint_snapshotPoint valid valid,
          List.forall_mem_singleton.2 (settings.apart_volumePoint_snapshotPoint valid otherValid)⟩⟩
    · exact List.forall_mem_cons.2 ⟨settings.apart_volumePoint_snapshotPoint otherValid valid,
        List.forall_mem_singleton.2
          (settings.apart_volumePoint_snapshotPoint otherValid otherValid)⟩
    · exact List.forall_mem_singleton.2
        (settings.apart_snapshotPoints valid otherValid different)
  · exact List.forall_mem_cons.2 ⟨settings.below_volumePoint valid,
      List.forall_mem_cons.2 ⟨settings.below_volumePoint otherValid,
        List.forall_mem_cons.2 ⟨settings.below_snapshotPoint valid,
          List.forall_mem_singleton.2 (settings.below_snapshotPoint otherValid)⟩⟩⟩

/-- Ids that look alike name different places. -/
theorem dotted_names_kept_apart :
    checkVolumeId "pg" = .ok () ∧ checkVolumeId "pg..snapshots" = .ok () ∧
      ("pg" : String) ≠ "pg..snapshots" ∧ ThinPool.read "/dev/../pool" = .ok ⟨"..", "pool"⟩ ∧
      ((⟨⟨"..", "pool"⟩, ⟨""⟩, ⟨1⟩, .always, []⟩ : Settings).pointsFor
        "pg" "pg..snapshots").Pairwise Path.Apart ∧
      ((⟨"..", "pool"⟩ : ThinPool).device "pg").fileName? = some "pg" := by
  have valid : checkVolumeId "pg" = .ok () := by decide
  have otherValid : checkVolumeId "pg..snapshots" = .ok () := by decide
  have read : ThinPool.read "/dev/../pool" = .ok ⟨"..", "pool"⟩ := by decide
  obtain ⟨apart, _, devices⟩ := volume_names_kept_apart
    ⟨⟨"..", "pool"⟩, ⟨""⟩, ⟨1⟩, .always, []⟩ valid otherValid (by decide)
  exact ⟨valid, otherValid, by decide, read, apart, (devices _ _ read).2⟩

end NodeAgent

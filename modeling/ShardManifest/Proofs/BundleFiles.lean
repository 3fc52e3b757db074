import Mathlib.Data.List.Nodup
import ShardManifest.Fragment.Bundle
import ShardManifest.Proofs.ByteOrder
import ShardManifest.Proofs.DictionaryRuns

/-!
# The files of a bundle

A bundle is filled fragment by fragment, and an empty fragment leaves it as it is. So a file holds
the last fragment with content that was put into it. The bundle of an installation is such a run
over six fragments, of which only the first one looks at the topology.

## Main definitions

- `Bundle.addAll`: a run of fragments
- `Bundle.fragments`: the fragments of an installation, each with its file

## Main results

- `Bundle.get?_files_addAll`, `Bundle.mem_keys_files_addAll`: what a run leaves in the files
- `Bundle.value_compose`, `Bundle.get?_files_compose_eq_some_iff`: the bundle of an installation is
  the run over its fragments, each of which has a file of its own
- `Bundle.keys_files_compose_eq`: of the clusters of an installation, its files tell only whether
  there are any
-/

namespace ShardManifest

namespace Xml

/-- A document holds its root at least. -/
theorem document_ne_empty (elements : List Element) : document elements ≠ "" := by
  intro h
  have hlist := congrArg String.toList h
  simp [document, Writer.finish, Writer.call] at hlist

end Xml

theorem Fragment.remoteServers_eq_empty_iff {t : Topology} {a : Addressing} :
    remoteServers t a = "" ↔ t.clusters = [] := by
  rw [remoteServers]
  by_cases h : t.clusters = []
  · simp [h]
  · simp [h, Xml.document_ne_empty]

namespace Bundle

/-- Puts fragments into their files, one after the other. -/
def addAll (b : Bundle) (fragments : List (String × String)) : Bundle :=
  fragments.foldl (fun b e => (b.add e.1 e.2).value) b

theorem files_value_add (b : Bundle) (filename content : String) :
    (b.add filename content).value.files =
      if content = "" then b.files else b.files.insert filename content := by
  rw [add]
  by_cases h : content = "" <;> simp [h]

/-- Empty fragments do not count, and the others are inserted. -/
theorem files_addAll (b : Bundle) (fragments : List (String × String)) :
    (b.addAll fragments).files =
      (fragments.filter fun e => e.2 ≠ "").foldl (fun d e => d.insert e.1 e.2) b.files := by
  induction fragments generalizing b with
  | nil => rfl
  | cons e fragments ih =>
    have hstep : b.addAll (e :: fragments) = (b.add e.1 e.2).value.addAll fragments := rfl
    rw [hstep, ih, files_value_add]
    by_cases h : e.2 = "" <;> simp [h]

/-- After a run a file holds the last fragment with content that was put into it, or what it held
before. -/
theorem get?_files_addAll (b : Bundle) (fragments : List (String × String)) (filename : String) :
    (b.addAll fragments).files.get? filename =
      ((lastNamed Prod.fst (fragments.filter fun e => e.2 ≠ "") filename).map Prod.snd).or
        (b.files.get? filename) := by
  rw [files_addAll, Dictionary.get?_foldl_insert]

theorem mem_keys_files_addAll {b : Bundle} {fragments : List (String × String)}
    {filename : String} :
    filename ∈ (b.addAll fragments).files.keys ↔
      filename ∈ b.files.keys ∨ ∃ e ∈ fragments, e.2 ≠ "" ∧ e.1 = filename := by
  have hlast : (∃ e, lastNamed Prod.fst (fragments.filter fun e => e.2 ≠ "") filename = some e) ↔
      ∃ e ∈ fragments, e.2 ≠ "" ∧ e.1 = filename := by
    simp [exists_lastNamed_eq_some_iff, and_assoc]
  rw [Dictionary.mem_keys_iff, Dictionary.mem_keys_iff, get?_files_addAll, ← hlast]
  cases lastNamed Prod.fst (fragments.filter fun e => e.2 ≠ "") filename <;> simp

/-! ### The bundle of an installation -/

/-- The fragments that do not depend on the clusters, each with its file. -/
def unclustered (installation : String) (c : Configuration) : List (String × String) :=
  [(File.zookeeper, Fragment.zookeeper installation c.zookeeper),
    (File.users, (Fragment.settings (some "users") c.users).value),
    (File.profiles, (Fragment.settings (some "profiles") c.profiles).value),
    (File.quotas, (Fragment.settings (some "quotas") c.quotas).value),
    (File.settings, (Fragment.settings none c.settings).value)]

/-- The fragments of an installation, each with its file. -/
def fragments (installation inNamespace : String) (s : Spec) (t : Topology) :
    List (String × String) :=
  (File.remoteServers, Fragment.remoteServers t (addressing inNamespace s)) ::
    unclustered installation s.configuration

/-- The bundle of an installation is a run over its fragments. -/
theorem value_compose (installation inNamespace : String) (s : Spec) (t : Topology) :
    (compose installation inNamespace s t).value =
      empty.addAll (fragments installation inNamespace s t) := rfl

theorem mem_keys_files_compose {installation inNamespace : String} {s : Spec} {t : Topology}
    {filename : String} :
    filename ∈ (compose installation inNamespace s t).value.files.keys ↔
      ∃ e ∈ fragments installation inNamespace s t, e.2 ≠ "" ∧ e.1 = filename := by
  have hempty : filename ∉ empty.files.keys := List.not_mem_nil
  rw [value_compose, mem_keys_files_addAll]
  simp [hempty]

theorem map_fst_fragments (installation inNamespace : String) (s : Spec) (t : Topology) :
    (fragments installation inNamespace s t).map Prod.fst =
      [File.remoteServers, File.zookeeper, File.users, File.profiles, File.quotas,
        File.settings] := rfl

/-- No two fragments go to one file. -/
theorem eq_of_mem_fragments {installation inNamespace : String} {s : Spec} {t : Topology}
    {e e' : String × String} (he : e ∈ fragments installation inNamespace s t)
    (he' : e' ∈ fragments installation inNamespace s t) (hname : e.1 = e'.1) : e = e' := by
  have hnodup : ((fragments installation inNamespace s t).map Prod.fst).Nodup := by
    rw [map_fst_fragments]
    decide
  exact List.inj_on_of_nodup_map hnodup he he' hname

theorem get?_files_compose {installation inNamespace : String} {s : Spec} {t : Topology}
    {e : String × String} (he : e ∈ fragments installation inNamespace s t) (hne : e.2 ≠ "") :
    (compose installation inNamespace s t).value.files.get? e.1 = some e.2 := by
  have hlast : lastNamed Prod.fst ((fragments installation inNamespace s t).filter fun e =>
      e.2 ≠ "") e.1 = some e := by
    refine lastNamed_eq_some_of_mem ?_ (List.mem_filter.2 ⟨he, by simpa using hne⟩)
    intro e' he' hname
    exact eq_of_mem_fragments (List.mem_filter.1 he').1 he hname
  rw [value_compose, get?_files_addAll, hlast]
  rfl

/-- A file holds the fragment of the installation that goes there, unless that is empty. -/
theorem get?_files_compose_eq_some_iff {installation inNamespace : String} {s : Spec}
    {t : Topology} {filename content : String} :
    (compose installation inNamespace s t).value.files.get? filename = some content ↔
      (filename, content) ∈ fragments installation inNamespace s t ∧ content ≠ "" := by
  constructor
  · intro h
    have hkey := (Dictionary.mem_keys_iff _ _).2 ⟨content, h⟩
    obtain ⟨e, he, hne, rfl⟩ := mem_keys_files_compose.1 hkey
    rw [get?_files_compose he hne] at h
    obtain rfl := Option.some.inj h
    exact ⟨he, hne⟩
  · rintro ⟨he, hne⟩
    exact get?_files_compose he hne

/-- The macros of a replica are no part of what all replicas share. -/
theorem macros_not_mem_keys_files_compose (installation inNamespace : String) (s : Spec)
    (t : Topology) :
    File.macros ∉ (compose installation inNamespace s t).value.files.keys := by
  rw [mem_keys_files_compose]
  rintro ⟨e, he, -, hname⟩
  have hmem : File.macros ∈ (fragments installation inNamespace s t).map Prod.fst :=
    hname ▸ List.mem_map_of_mem he
  rw [map_fst_fragments] at hmem
  exact absurd hmem (by decide)

/-- Two installations have the same files if both have clusters or both have none, and if they agree
in everything else that is shared. -/
theorem keys_files_compose_eq {installation inNamespace inNamespace' : String} {s s' : Spec}
    {t t' : Topology}
    (hs : unclustered installation s.configuration = unclustered installation s'.configuration)
    (ht : t.clusters = [] ↔ t'.clusters = []) :
    (compose installation inNamespace s t).value.files.keys =
      (compose installation inNamespace' s' t').value.files.keys := by
  have hcontent : ∀ a a', Fragment.remoteServers t a = "" ↔ Fragment.remoteServers t' a' = "" := by
    intro a a'
    rw [Fragment.remoteServers_eq_empty_iff, Fragment.remoteServers_eq_empty_iff, ht]
  refine eq_of_ascending_of_mem_iff (Dictionary.keys_pairwise _) (Dictionary.keys_pairwise _) ?_
  intro filename
  rw [mem_keys_files_compose, mem_keys_files_compose, fragments, fragments, hs]
  simp [hcontent (addressing inNamespace s) (addressing inNamespace' s')]

end Bundle

end ShardManifest

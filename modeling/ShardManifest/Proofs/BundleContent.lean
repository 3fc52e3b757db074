import Mathlib.Data.Finset.Card
import ShardManifest.Proofs.HollowElements
import ShardManifest.Proofs.SharedConfiguration

/-!
# What is in a bundle

Fragments come into a bundle one call after the other, in any order, some of them empty and some for
a file that is there already. A bundle remembers of such a run exactly the last call with content
for each file. The bundle of an installation is a run over six fragments. Which of them have content
is told by the sources alone: by clusters, by members of the coordination service, and by keys that
can be written.

## Main definitions

- `Bundle.LastContent`: what the last call with content has brought for a file
- `Bundle.Records`: what can be observed of a bundle is what a run of calls has left
- `Bundle.FilesOf`: the files that an installation calls for, each written from its own source

## Main results

- `Bundle.get?_files_value_add`: what one call does to the files
- `Bundle.get?_files_addAll_eq_some_iff`: what a run of calls leaves in them
- `Bundle.records_addAll`: a bundle records the run that it was filled by
- `Bundle.filesOf_compose`: the bundle of an installation has the files that its sources call for
-/

namespace ShardManifest

namespace Bundle

/-! ### Runs of calls -/

/-- Some call has brought content for a file, and no later call for it has brought any. -/
def LastContent (calls : List (String × String)) (filename content : String) : Prop :=
  content ≠ "" ∧ ∃ before after, calls = before ++ (filename, content) :: after ∧
    ∀ call ∈ after, call.1 = filename → call.2 = ""

/-- What can be observed of a bundle is what a run of calls has left. -/
structure Records (b : Bundle) (calls : List (String × String)) : Prop where
  stored : ∀ filename content,
    b.files.get? filename = some content ↔ LastContent calls filename content
  absent : ∀ filename,
    b.files.get? filename = none ↔ ∀ call ∈ calls, call.1 = filename → call.2 = ""
  filled : ∀ filename content, b.files.get? filename = some content → content ≠ ""
  ascending : b.files.keys.Pairwise BytewiseLT
  names : ∀ filename, filename ∈ b.files.keys ↔ ∃ content, b.files.get? filename = some content
  length : b.files.size = b.files.keys.length
  size : b.files.size = ((calls.filter fun call => call.2 ≠ "").map Prod.fst).toFinset.card
  isEmpty : b.files.isEmpty = true ↔ ∀ call ∈ calls, call.2 = ""
  data : ∀ filename content,
    (filename, content) ∈ b.files.entries ↔ b.files.get? filename = some content

theorem add_empty (b : Bundle) (filename : String) : (b.add filename "").value = b := rfl

/-- A call with content answers for its own file, and one without content changes nothing. -/
theorem get?_files_value_add (b : Bundle) (filename content other : String) :
    (b.add filename content).value.files.get? other =
      if other = filename ∧ content ≠ "" then some content else b.files.get? other := by
  rw [files_value_add]
  by_cases h : content = ""
  · simp [h]
  · simp [h, Dictionary.get?_insert]

theorem addAll_concat (b : Bundle) (calls : List (String × String)) (call : String × String) :
    b.addAll (calls ++ [call]) = ((b.addAll calls).add call.1 call.2).value := by
  rw [addAll, List.foldl_concat, addAll]

theorem not_lastContent_nil (filename content : String) : ¬LastContent [] filename content := by
  rintro ⟨-, before, after, hsplit, -⟩
  simp at hsplit

/-- One more call hides what earlier ones have brought if it has content for the file. -/
theorem lastContent_concat_iff {calls : List (String × String)} {call : String × String}
    {filename content : String} :
    LastContent (calls ++ [call]) filename content ↔
      if filename = call.1 ∧ call.2 ≠ "" then content = call.2
      else LastContent calls filename content := by
  constructor
  · rintro ⟨hcontent, before, after, hsplit, hafter⟩
    rcases List.eq_nil_or_concat after with rfl | ⟨after, last, rfl⟩
    · obtain ⟨-, hlast⟩ := List.append_inj' hsplit rfl
      obtain rfl := List.singleton_inj.1 hlast
      rw [if_pos ⟨rfl, hcontent⟩]
    · rw [List.concat_eq_append] at hsplit hafter
      rw [← List.cons_append, ← List.append_assoc] at hsplit
      obtain ⟨rfl, hlast⟩ := List.append_inj' hsplit rfl
      obtain rfl := List.singleton_inj.1 hlast
      have hempty := hafter call (by simp)
      rw [if_neg fun h => h.2 (hempty h.1.symm)]
      exact ⟨hcontent, before, after, rfl, fun c hc => hafter c (List.mem_append_left _ hc)⟩
  · split
    next h =>
      rintro rfl
      obtain ⟨rfl, hcontent⟩ := h
      exact ⟨hcontent, calls, [], rfl, by simp⟩
    next h =>
      rintro ⟨hcontent, before, after, rfl, hafter⟩
      refine ⟨hcontent, before, after ++ [call], by simp, fun c hc => ?_⟩
      rcases List.mem_append.1 hc with hc | hc
      · exact hafter c hc
      · rw [List.mem_singleton.1 hc]
        intro hname
        by_contra hne
        exact h ⟨hname.symm, hne⟩

/-- After a run of calls a file holds what the last call with content has brought for it. -/
theorem get?_files_addAll_eq_some_iff {calls : List (String × String)}
    {filename content : String} :
    (empty.addAll calls).files.get? filename = some content ↔
      LastContent calls filename content := by
  induction calls using List.reverseRecOn with
  | nil => exact iff_of_false (by simp [addAll, empty]) (not_lastContent_nil _ _)
  | append_singleton calls call ih =>
    rw [addAll_concat, get?_files_value_add, lastContent_concat_iff]
    split
    · rw [Option.some.injEq, eq_comm]
    · exact ih

theorem mem_keys_files_addAll_empty {calls : List (String × String)} {filename : String} :
    filename ∈ (empty.addAll calls).files.keys ↔
      ∃ call ∈ calls, call.2 ≠ "" ∧ call.1 = filename := by
  have hempty : filename ∉ empty.files.keys := List.not_mem_nil
  rw [mem_keys_files_addAll, or_iff_right hempty]

/-- A bundle records the run of calls that it was filled by, whatever the calls are, and one more
call without content changes nothing. -/
theorem records_addAll (calls : List (String × String)) :
    (empty.addAll calls).Records calls ∧
      ∀ filename, ((empty.addAll calls).add filename "").value = empty.addAll calls := by
  have habsent : ∀ filename, (empty.addAll calls).files.get? filename = none ↔
      ∀ call ∈ calls, call.1 = filename → call.2 = "" := by
    intro filename
    have hkey := @mem_keys_files_addAll_empty calls filename
    rw [Dictionary.mem_keys_iff, ← Option.ne_none_iff_exists'] at hkey
    rw [← not_iff_not, ← Ne, hkey]
    simp [and_comm]
  refine ⟨?records, add_empty _⟩
  constructor
  case stored => exact fun _ _ => get?_files_addAll_eq_some_iff
  case absent => exact habsent
  case filled => exact fun _ _ h => (get?_files_addAll_eq_some_iff.1 h).1
  case ascending => exact (Dictionary.keys_pairwise _).imp bytewiseLT_iff.2
  case names => exact Dictionary.mem_keys_iff _
  case length => exact (List.length_map _).symm
  case size =>
    refine Dictionary.size_eq_card fun filename => ?_
    simp [mem_keys_files_addAll_empty, and_assoc]
  case isEmpty =>
    rw [Dictionary.isEmpty_iff]
    simp only [habsent]
    exact ⟨fun h call hcall => h _ call hcall rfl, fun h _ call hcall _ => h call hcall⟩
  case data => exact Dictionary.mem_entries_iff _

/-! ### The bundle of an installation -/

/-- The document that settings come to, if they have a key that can be written. -/
def document? (section? : Option String) (s : Settings) : Option String :=
  if ∃ key ∈ s.keys, Settings.IsValidKey key then some (Fragment.settings section? s).value
  else none

/-- All names that a file of an installation can have, in their order. -/
def filenames : List String :=
  ["profiles.xml", "quotas.xml", "remote_servers.xml", "settings.xml", "users.xml",
    "zookeeper.xml"]

/-- The files of an installation: which there are, and what each is made of. -/
structure FilesOf (installation inNamespace : String) (s : Spec) (t : Topology)
    (files : Dictionary String) : Prop where
  remoteServers : files.get? "remote_servers.xml" =
    if t.clusters ≠ [] then
      some (Fragment.remoteServers t
        (if s.defaults.qualifiedHosts then .qualified inNamespace else .service))
    else none
  zookeeper : files.get? "zookeeper.xml" =
    if s.configuration.zookeeper.nodes ≠ [] then
      some (Fragment.zookeeper installation s.configuration.zookeeper)
    else none
  users : files.get? "users.xml" = document? (some "users") s.configuration.users
  profiles : files.get? "profiles.xml" = document? (some "profiles") s.configuration.profiles
  quotas : files.get? "quotas.xml" = document? (some "quotas") s.configuration.quotas
  settings : files.get? "settings.xml" = document? none s.configuration.settings
  /-- What is written from settings stands inside the section, or directly below the root. -/
  sections : ∀ f ∈ settingsFiles s.configuration, ∀ content, files.get? f.1 = some content →
    content = Xml.document (Fragment.written f.2.1 f.2.2)
  filled : ∀ filename content, files.get? filename = some content → content ≠ ""
  macros : files.get? "macros.xml" = none
  names : files.keys.Sublist filenames
  ascending : files.keys.Pairwise BytewiseLT

section Compose

variable {installation inNamespace filename content : String} {s : Spec} {t : Topology}

/-- A file is there unless the fragment that goes there is empty. -/
theorem get?_files_compose_eq_ite
    (h : (filename, content) ∈ fragments installation inNamespace s t) :
    (compose installation inNamespace s t).value.files.get? filename =
      if content ≠ "" then some content else none := by
  by_cases hempty : content = ""
  · subst hempty
    exact get?_files_compose_eq_none h
  · rw [if_pos hempty]
    exact get?_files_compose h hempty

theorem get?_files_compose_of_mem_settingsFiles {f : String × Option String × Settings}
    (h : f ∈ settingsFiles s.configuration) :
    (compose installation inNamespace s t).value.files.get? f.1 = document? f.2.1 f.2.2 := by
  rw [get?_files_compose_eq_ite (mem_fragments_of_mem_settingsFiles h), document?]
  refine if_congr ?_ rfl rfl
  rw [Ne, Fragment.settings_eq_empty_iff]
  simp

theorem eq_document_of_mem_settingsFiles {f : String × Option String × Settings}
    (h : f ∈ settingsFiles s.configuration)
    (hcontent : (compose installation inNamespace s t).value.files.get? f.1 = some content) :
    content = Xml.document (Fragment.written f.2.1 f.2.2) := by
  have hne := (get?_files_compose_eq_some_iff.1 hcontent).2
  rw [get?_files_compose_of_mem_settingsFiles h, document?] at hcontent
  split at hcontent
  next =>
    obtain rfl := Option.some.inj hcontent
    have hchildren := Fragment.settings_ne_empty_iff.1 hne
    rw [Fragment.value_settings, if_neg (by simpa using hchildren)]
    rfl
  next => cases hcontent

theorem get?_macros_files_compose :
    (compose installation inNamespace s t).value.files.get? File.macros = none := by
  refine Option.eq_none_iff_forall_ne_some.2 fun content hcontent => ?_
  have hkey := (Dictionary.mem_keys_iff _ _).2 ⟨content, hcontent⟩
  exact macros_not_mem_keys_files_compose installation inNamespace s t hkey

theorem mem_filenames_of_mem_keys
    (h : filename ∈ (compose installation inNamespace s t).value.files.keys) :
    filename ∈ filenames := by
  obtain ⟨e, he, -, rfl⟩ := mem_keys_files_compose.1 h
  have hname : e.1 ∈ (fragments installation inNamespace s t).map Prod.fst :=
    List.mem_map_of_mem he
  have hall : ∀ name ∈ [File.remoteServers, File.zookeeper, File.users, File.profiles,
      File.quotas, File.settings], name ∈ filenames := by decide
  rw [map_fst_fragments] at hname
  exact hall _ hname

theorem keys_files_compose_sublist :
    (compose installation inNamespace s t).value.files.keys.Sublist filenames := by
  have hascending : filenames.Pairwise (· < ·) := by decide
  have hkeys : (compose installation inNamespace s t).value.files.keys =
      filenames.filter (· ∈ (compose installation inNamespace s t).value.files.keys) := by
    refine eq_of_ascending_of_mem_iff (Dictionary.keys_pairwise _) (hascending.filter _) ?_
    intro filename
    simp only [List.mem_filter, decide_eq_true_iff]
    exact ⟨fun h => ⟨mem_filenames_of_mem_keys h, h⟩, fun h => h.2⟩
  rw [hkeys]
  exact List.filter_sublist

end Compose

/-- The bundle of an installation has the files that its sources call for, each written from its own
source, and no others. A walk has clusters exactly if some are declared. -/
theorem filesOf_compose (installation inNamespace : String) (s : Spec) (t : Topology) :
    FilesOf installation inNamespace s t (compose installation inNamespace s t).value.files ∧
      ((Topology.walk s).clusters ≠ [] ↔ s.configuration.clusters ≠ []) := by
  refine ⟨?files, by simp [Topology.walk]⟩
  have hsettings : ∀ f ∈ settingsFiles s.configuration,
      (compose installation inNamespace s t).value.files.get? f.1 = document? f.2.1 f.2.2 :=
    fun f => get?_files_compose_of_mem_settingsFiles
  simp only [settingsFiles, List.forall_mem_cons] at hsettings
  obtain ⟨husers, hprofiles, hquotas, hdirect, -⟩ := hsettings
  constructor
  case remoteServers =>
    have hmem : (File.remoteServers, Fragment.remoteServers t (addressing inNamespace s)) ∈
        fragments installation inNamespace s t := List.mem_cons_self
    refine (get?_files_compose_eq_ite hmem).trans (if_congr ?_ rfl rfl)
    rw [Ne, Fragment.remoteServers_eq_empty_iff]
  case zookeeper =>
    have hmem : (File.zookeeper, Fragment.zookeeper installation s.configuration.zookeeper) ∈
        fragments installation inNamespace s t := by simp [fragments, unclustered]
    refine (get?_files_compose_eq_ite hmem).trans (if_congr ?_ rfl rfl)
    rw [Ne, Fragment.zookeeper_eq_empty_iff]
  case users => exact husers
  case profiles => exact hprofiles
  case quotas => exact hquotas
  case settings => exact hdirect
  case sections => exact fun _ hf _ hcontent => eq_document_of_mem_settingsFiles hf hcontent
  case filled => exact fun _ _ h => (get?_files_compose_eq_some_iff.1 h).2
  case macros => exact get?_macros_files_compose
  case names => exact keys_files_compose_sublist
  case ascending => exact (Dictionary.keys_pairwise _).imp bytewiseLT_iff.2

end Bundle

end ShardManifest

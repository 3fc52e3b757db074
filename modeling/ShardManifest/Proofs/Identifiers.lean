import ShardManifest.Proofs.ByteOrder
import ShardManifest.Proofs.Numerals
import ShardManifest.Topology

/-!
# What an identifier tells

The identifier of a replica is made of the first six digits of a fingerprint and of three numerals,
with a hyphen in front of each numeral. Digits and numerals can be read back, so the identifier
alone tells the three coordinates, whatever templates the replica selects.

## Main results

- `Sha256.hex_injective`: a digest is told by its hexadecimal digits
- `Fingerprint.of_eq_of_iff`: fingerprints are equal exactly when the digests behind them are
- `deploymentId_coordinates`: an identifier tells its coordinates
- `append_deploymentId_inj`: an identifier can be read off the end of a text
-/

namespace ShardManifest

namespace Sha256

theorem digitChar_injective {m n : Nat} (hm : m < 16) (hn : n < 16)
    (h : Nat.digitChar m = Nat.digitChar n) : m = n := by
  have table : ∀ a b : Fin 16, Nat.digitChar a = Nat.digitChar b → a = b := by decide
  exact congrArg Fin.val (table ⟨m, hm⟩ ⟨n, hn⟩ h)

/-- What holds of all sixteen digits holds of the digits of a number. -/
theorem forall_mem_hexDigits {P : Char → Prop} (h : ∀ d < 16, P (Nat.digitChar d)) (width n : Nat) :
    ∀ c ∈ hexDigits width n, P c := by
  induction width generalizing n with
  | zero => simp [hexDigits]
  | succ width ih =>
    rw [hexDigits, List.forall_mem_append, List.forall_mem_singleton]
    exact ⟨ih (n / 16), h _ (Nat.mod_lt n (by decide))⟩

theorem forall_mem_hex {P : Char → Prop} (h : ∀ d < 16, P (Nat.digitChar d)) (s : State) :
    ∀ c ∈ (hex s).toList, P c := by
  rw [hex, String.toList_ofList]
  intro c hc
  obtain ⟨w, -, hw⟩ := List.mem_flatMap.1 hc
  exact forall_mem_hexDigits h 8 w.toNat c hw

theorem hexDigits_injective {width m n : Nat} (hm : m < Nat.pow 16 width)
    (hn : n < Nat.pow 16 width) (h : hexDigits width m = hexDigits width n) : m = n := by
  induction width generalizing m n with
  | zero =>
    have hm₀ : m < 1 := hm
    have hn₀ : n < 1 := hn
    omega
  | succ width ih =>
    rw [hexDigits, hexDigits] at h
    obtain ⟨hhigh, hlow⟩ := List.append_inj' h rfl
    have hm₁ : m < Nat.pow 16 width * 16 := hm
    have hn₁ : n < Nat.pow 16 width * 16 := hn
    have hdiv : m / 16 = n / 16 := ih (by omega) (by omega) hhigh
    have hmod : m % 16 = n % 16 :=
      digitChar_injective (by omega) (by omega) (List.singleton_inj.1 hlow)
    omega

theorem hexDigits_word_injective {v w : UInt32} (h : hexDigits 8 v.toNat = hexDigits 8 w.toNat) :
    v = w := by
  have hv : v.toNat < Nat.pow 16 8 := v.toNat_lt
  have hw : w.toNat < Nat.pow 16 8 := w.toNat_lt
  exact UInt32.toNat_inj.1 (hexDigits_injective hv hw h)

/-- Rows of pieces of one length are equal only if their pieces are. -/
theorem map_eq_map_of_flatMap_eq {α β : Type} {f : α → List β} {k : Nat}
    (hf : ∀ a, (f a).length = k) {l m : List α} (hlen : l.length = m.length)
    (h : l.flatMap f = m.flatMap f) : l.map f = m.map f := by
  induction l generalizing m with
  | nil =>
    cases m with
    | nil => rfl
    | cons b m => simp at hlen
  | cons a l ih =>
    cases m with
    | nil => simp at hlen
    | cons b m =>
      rw [List.flatMap_cons, List.flatMap_cons] at h
      obtain ⟨hhead, htail⟩ := List.append_inj h ((hf a).trans (hf b).symm)
      rw [List.map_cons, List.map_cons, hhead, ih (Nat.succ.inj hlen) htail]

/-- A digest is told by its hexadecimal digits. -/
theorem hex_injective {s t : State} (h : hex s = hex t) : s = t := by
  rw [hex, hex] at h
  have hlen : s.words.length = t.words.length := rfl
  have hmap := map_eq_map_of_flatMap_eq (fun w : UInt32 => length_hexDigits 8 w.toNat) hlen
    (String.ofList_injective h)
  cases s
  cases t
  simp only [State.words, List.map_cons, List.map_nil, List.cons.injEq] at hmap
  obtain ⟨ha, hb, hc, hd, he, hf, hg, hh, -⟩ := hmap
  rw [State.mk.injEq]
  exact ⟨hexDigits_word_injective ha, hexDigits_word_injective hb, hexDigits_word_injective hc,
    hexDigits_word_injective hd, hexDigits_word_injective he, hexDigits_word_injective hf,
    hexDigits_word_injective hg, hexDigits_word_injective hh⟩

end Sha256

/-- The digest behind the fingerprint of a selection. -/
def Selection.digest (s : Selection) : Sha256.State :=
  Sha256.digest (utf8Bytes s.encode)

namespace Fingerprint

/-- Fingerprints are equal exactly when the digests behind them are. -/
theorem of_eq_of_iff {a b : Selection} :
    Fingerprint.of a = Fingerprint.of b ↔ a.digest = b.digest := by
  constructor
  · intro h
    exact Sha256.hex_injective (congrArg Fingerprint.hex h)
  · intro h
    rw [Fingerprint.mk.injEq]
    exact congrArg Sha256.hex h

theorem length_short (s : Selection) : (Fingerprint.of s).short.toList.length = 6 := by
  simp [short, of, shortLength, Sha256.length_toList_hex]

theorem forall_mem_short {P : Char → Prop} (h : ∀ d < 16, P (Nat.digitChar d)) (s : Selection) :
    ∀ c ∈ (Fingerprint.of s).short.toList, P c := by
  rw [short, String.toList_ofList]
  exact fun c hc => Sha256.forall_mem_hex h _ c (List.mem_of_mem_take hc)

theorem hyphen_not_mem_short (s : Selection) : '-' ∉ (Fingerprint.of s).short.toList :=
  fun hmem => forall_mem_short (P := (· ≠ '-')) (by decide) s _ hmem rfl

end Fingerprint

/-! ### Identifiers -/

/-- What stands in front of the first mark is cut from what follows in one way only. -/
theorem append_cons_inj_of_not_mem {α : Type} {a : α} {x x' y y' : List α} (hx : a ∉ x)
    (hx' : a ∉ x') (h : x ++ a :: y = x' ++ a :: y') : x = x' ∧ y = y' := by
  induction x generalizing x' with
  | nil =>
    cases x' with
    | nil => exact ⟨rfl, (List.cons.inj h).2⟩
    | cons b x' => exact absurd (List.cons.inj h).1 (List.ne_of_not_mem_cons hx')
  | cons b x ih =>
    cases x' with
    | nil => exact absurd (List.cons.inj h).1.symm (List.ne_of_not_mem_cons hx)
    | cons b' x' =>
      obtain ⟨rfl, hrest⟩ := List.cons.inj h
      obtain ⟨rfl, rfl⟩ :=
        ih (List.not_mem_of_not_mem_cons hx) (List.not_mem_of_not_mem_cons hx') hrest
      exact ⟨rfl, rfl⟩

/-- What follows the last mark is cut from what stands in front in one way only. -/
theorem append_cons_inj_of_not_mem_right {α : Type} {a : α} {x x' y y' : List α} (hy : a ∉ y)
    (hy' : a ∉ y') (h : x ++ a :: y = x' ++ a :: y') : x = x' ∧ y = y' := by
  -- read backwards, the last mark is the first one
  have hreverse : y.reverse ++ a :: x.reverse = y'.reverse ++ a :: x'.reverse := by
    simpa using congrArg List.reverse h
  obtain ⟨hbehind, hfront⟩ := append_cons_inj_of_not_mem (mt List.mem_reverse.1 hy)
    (mt List.mem_reverse.1 hy') hreverse
  exact ⟨List.reverse_injective hfront, List.reverse_injective hbehind⟩

theorem toList_deploymentId (f : Fingerprint) (cluster shard replica : Nat) :
    (deploymentId f cluster shard replica).toList =
      f.short.toList ++ '-' :: ((toString cluster).toList ++ '-' ::
        ((toString shard).toList ++ '-' :: (toString replica).toList)) := by
  simp [deploymentId]

/-- An identifier tells its coordinates, whatever is selected there. -/
theorem deploymentId_coordinates {a b : Selection} {c s r c' s' r' : Nat}
    (h : deploymentId (.of a) c s r = deploymentId (.of b) c' s' r') :
    c = c' ∧ s = s' ∧ r = r' := by
  have hlist := congrArg String.toList h
  rw [toList_deploymentId, toList_deploymentId] at hlist
  have hlen : (Fingerprint.of a).short.toList.length = (Fingerprint.of b).short.toList.length := by
    rw [Fingerprint.length_short, Fingerprint.length_short]
  -- the digits have one length, and each numeral ends where the next hyphen stands
  obtain ⟨-, hcoordinates⟩ := List.append_inj hlist hlen
  obtain ⟨hc, hplace⟩ := append_cons_inj_of_not_mem (hyphen_not_mem_numeral c)
    (hyphen_not_mem_numeral c') (List.cons.inj hcoordinates).2
  obtain ⟨hs, hr⟩ := append_cons_inj_of_not_mem (hyphen_not_mem_numeral s)
    (hyphen_not_mem_numeral s') hplace
  exact ⟨numeral_injective (String.toList_injective hc),
    numeral_injective (String.toList_injective hs), numeral_injective (String.toList_injective hr)⟩

/-- A text that ends in an identifier, cut at its last three hyphens. -/
theorem append_deploymentId (x : List Char) (f : Fingerprint) (c s r : Nat) :
    x ++ (deploymentId f c s r).toList =
      (((x ++ f.short.toList) ++ '-' :: (toString c).toList) ++ '-' :: (toString s).toList) ++
        '-' :: (toString r).toList := by
  simp [toList_deploymentId]

/-- An identifier can be read off the end of a text, whatever stands in front of it. -/
theorem append_deploymentId_inj {x x' : List Char} {a b : Selection} {c s r c' s' r' : Nat}
    (h : x ++ (deploymentId (.of a) c s r).toList = x' ++ (deploymentId (.of b) c' s' r').toList) :
    x = x' ∧ deploymentId (.of a) c s r = deploymentId (.of b) c' s' r' := by
  rw [append_deploymentId, append_deploymentId] at h
  obtain ⟨hfront, hr⟩ := append_cons_inj_of_not_mem_right (hyphen_not_mem_numeral r)
    (hyphen_not_mem_numeral r') h
  obtain ⟨hfront, hs⟩ := append_cons_inj_of_not_mem_right (hyphen_not_mem_numeral s)
    (hyphen_not_mem_numeral s') hfront
  obtain ⟨hfront, hc⟩ := append_cons_inj_of_not_mem_right (hyphen_not_mem_numeral c)
    (hyphen_not_mem_numeral c') hfront
  have hlen : (Fingerprint.of a).short.toList.length = (Fingerprint.of b).short.toList.length := by
    rw [Fingerprint.length_short, Fingerprint.length_short]
  obtain ⟨hx, hshort⟩ := List.append_inj' hfront hlen
  refine ⟨hx, String.toList_injective ?_⟩
  rw [toList_deploymentId, toList_deploymentId, hshort, hc, hs, hr]

end ShardManifest

import IndexPrice.Proofs.Price.Store
import Mathlib

/-!
# Runs of equal prices

A store keeps the sample with which a price came up and drops those that confirm it.
What it holds of a market is therefore the first sample of the trailing run: the
longest suffix of the offered samples in which each price equals the one before.
-/

namespace IndexPrice

/-! ## Steady prices -/

/-- Equal as numbers: so are the zeros, and nothing equals what is not a number. -/
def Sample.SamePrice (sample next : Sample) : Prop := (sample.price == next.price) = true

namespace Sample.SamePrice

instance : DecidableRel Sample.SamePrice := fun sample next =>
  inferInstanceAs (Decidable ((sample.price == next.price) = true))

theorem symm {sample next : Sample} (h : sample.SamePrice next) : next.SamePrice sample :=
  PartialEquivBEq.symm h

theorem trans {sample middle next : Sample} (h : sample.SamePrice middle)
    (hmiddle : middle.SamePrice next) : sample.SamePrice next :=
  PartialEquivBEq.trans h hmiddle

instance : Trans Sample.SamePrice Sample.SamePrice Sample.SamePrice := ⟨trans⟩

end Sample.SamePrice

def Steady (samples : List Sample) : Prop := samples.IsChain Sample.SamePrice

instance : DecidablePred Steady := fun samples =>
  inferInstanceAs (Decidable (samples.IsChain Sample.SamePrice))

theorem Steady.of_suffix {samples other : List Sample} (h : Steady samples)
    (hsuffix : other <:+ samples) : Steady other :=
  List.IsChain.suffix h hsuffix

private theorem steady_iff_pairwise {samples : List Sample} :
    Steady samples ↔ samples.Pairwise Sample.SamePrice :=
  List.isChain_iff_pairwise

theorem steady_concat_iff {first sample : Sample} {rest : List Sample}
    (h : Steady (first :: rest)) :
    Steady (first :: rest ++ [sample]) ↔ first.SamePrice sample := by
  rw [steady_iff_pairwise] at h
  rw [steady_iff_pairwise, List.pairwise_append]
  constructor
  · rintro ⟨-, -, hlast⟩
    exact hlast first List.mem_cons_self sample (List.mem_singleton_self sample)
  · intro hsame
    -- equality carries the price of the first sample to all others
    refine ⟨h, List.pairwise_singleton _ _, ?_⟩
    intro earlier hearlier last hlast
    rw [List.mem_singleton.mp hlast]
    rcases List.mem_cons.mp hearlier with rfl | hrest
    · exact hsame
    · exact ((List.pairwise_cons.mp h).1 earlier hrest).symm.trans hsame

/-! ## The trailing run -/

def trailingRun : List Sample → List Sample
  | [] => []
  | first :: rest => if Steady (first :: rest) then first :: rest else trailingRun rest

theorem suffix_trailingRun_iff {samples other : List Sample} :
    other <:+ trailingRun samples ↔ other <:+ samples ∧ Steady other := by
  induction samples with
  | nil =>
      rw [trailingRun, List.suffix_nil]
      constructor
      · rintro rfl
        exact ⟨rfl, .nil⟩
      · exact And.left
  | cons first rest ih =>
      rw [trailingRun]
      split
      · next hsteady => exact ⟨fun h => ⟨h, hsteady.of_suffix h⟩, And.left⟩
      · next hunsteady =>
          rw [ih, List.suffix_cons_iff]
          constructor
          · rintro ⟨hsuffix, hsteady⟩
            exact ⟨.inr hsuffix, hsteady⟩
          · rintro ⟨rfl | hsuffix, hsteady⟩
            · exact absurd hsteady hunsteady
            · exact ⟨hsuffix, hsteady⟩

example : trailingRun [⟨5, ⟨0, 0⟩⟩, ⟨0.0, ⟨1, 0⟩⟩, ⟨-0.0, ⟨2, 0⟩⟩] =
    [⟨0.0, ⟨1, 0⟩⟩, ⟨-0.0, ⟨2, 0⟩⟩] := by
  decide +kernel

private theorem steady_trailingRun (samples : List Sample) : Steady (trailingRun samples) :=
  (suffix_trailingRun_iff.mp List.suffix_rfl).2

private theorem eq_trailingRun {samples run : List Sample}
    (h : ∀ other, other <:+ run ↔ other <:+ samples ∧ Steady other) :
    trailingRun samples = run := by
  have hrun : run <:+ trailingRun samples :=
    suffix_trailingRun_iff.mpr ((h run).mp List.suffix_rfl)
  have htrailing : trailingRun samples <:+ run :=
    (h _).mpr (suffix_trailingRun_iff.mp List.suffix_rfl)
  exact htrailing.eq_of_length (le_antisymm htrailing.length_le hrun.length_le)

theorem trailingRun_eq_nil_iff {samples : List Sample} :
    trailingRun samples = [] ↔ samples = [] := by
  constructor
  · intro hnil
    rcases samples.eq_nil_or_concat' with rfl | ⟨earlier, last, rfl⟩
    · rfl
    · have hlast : [last] <:+ trailingRun (earlier ++ [last]) :=
        suffix_trailingRun_iff.mpr ⟨List.suffix_append _ _, .singleton last⟩
      rw [hnil, List.suffix_nil] at hlast
      cases hlast
  · rintro rfl
    rfl

/-! ## One more sample -/

theorem trailingRun_concat_of_same {samples rest : List Sample} {first sample : Sample}
    (hrun : trailingRun samples = first :: rest) (hsame : first.SamePrice sample) :
    trailingRun (samples ++ [sample]) = trailingRun samples ++ [sample] := by
  have hsteady : Steady (trailingRun samples ++ [sample]) := by
    rw [hrun]
    exact (steady_concat_iff (hrun ▸ steady_trailingRun samples)).mpr hsame
  have hsuffix : trailingRun samples <:+ samples :=
    (suffix_trailingRun_iff.mp List.suffix_rfl).1
  apply eq_trailingRun
  intro other
  constructor
  · intro hother
    exact ⟨hother.trans (List.suffix_append_self_iff.mpr hsuffix), hsteady.of_suffix hother⟩
  · rintro ⟨hother, hchain⟩
    rcases List.suffix_concat_iff.mp hother with rfl | ⟨earlier, rfl, hearlier⟩
    · exact List.nil_suffix
    · have hrun : earlier <:+ trailingRun samples :=
        suffix_trailingRun_iff.mpr ⟨hearlier, List.IsChain.left_of_append hchain⟩
      exact List.suffix_append_self_iff.mpr hrun

private theorem trailingRun_concat_of_news {samples : List Sample} {sample : Sample}
    (hnews : ∀ first ∈ (trailingRun samples).head?, ¬ first.SamePrice sample) :
    trailingRun (samples ++ [sample]) = [sample] := by
  apply eq_trailingRun
  intro other
  constructor
  · intro hother
    exact ⟨hother.trans (List.suffix_append samples [sample]),
      Steady.of_suffix (.singleton sample) hother⟩
  · rintro ⟨hother, hchain⟩
    rcases List.suffix_concat_iff.mp hother with rfl | ⟨earlier, rfl, hearlier⟩
    · exact List.nil_suffix
    · cases earlier with
      | nil => exact List.suffix_rfl
      | cons next rest =>
          -- a longer suffix would be steady with the first sample of the trailing run in front
          have hsteady : Steady (next :: rest) := List.IsChain.left_of_append hchain
          have hsame : next.SamePrice sample := (steady_concat_iff hsteady).mp hchain
          have hrun : next :: rest <:+ trailingRun samples :=
            suffix_trailingRun_iff.mpr ⟨hearlier, hsteady⟩
          have hmem : next ∈ trailingRun samples := hrun.subset List.mem_cons_self
          have htrailing := steady_iff_pairwise.mp (steady_trailingRun samples)
          cases hcases : trailingRun samples with
          | nil => simp [hcases] at hmem
          | cons first others =>
              rw [hcases] at hmem htrailing hnews
              rcases List.mem_cons.mp hmem with rfl | hlater
              · exact absurd hsame (hnews _ rfl)
              · have hfirst := (List.pairwise_cons.mp htrailing).1 next hlater
                exact absurd (hfirst.trans hsame) (hnews _ rfl)

theorem trailingRun_concat_eq_singleton_iff {samples : List Sample} {sample : Sample} :
    trailingRun (samples ++ [sample]) = [sample] ↔
      ∀ first ∈ (trailingRun samples).head?, ¬ first.SamePrice sample := by
  refine ⟨fun hstart first hfirst hsame => ?_, trailingRun_concat_of_news⟩
  obtain ⟨rest, hrun⟩ := List.head?_eq_some_iff.mp hfirst
  rw [trailingRun_concat_of_same hrun hsame, hrun] at hstart
  simp at hstart

/-- Samples that confirm the price of a run prolong it. -/
theorem trailingRun_append_of_steady {samples later : List Sample} (hne : samples ≠ [])
    (hsteady : Steady (trailingRun samples ++ later)) :
    trailingRun (samples ++ later) = trailingRun samples ++ later := by
  obtain ⟨first, rest, hrun⟩ := List.exists_cons_of_ne_nil (mt trailingRun_eq_nil_iff.mp hne)
  induction later using List.reverseRecOn with
  | nil => simp
  | append_singleton later sample ih =>
      rw [← List.append_assoc] at hsteady
      have hearlier := ih (List.IsChain.left_of_append hsteady)
      have hsame : first.SamePrice sample := by
        rw [hrun] at hsteady
        exact (steady_concat_iff (List.IsChain.left_of_append hsteady)).mp hsteady
      rw [hrun] at hearlier
      calc trailingRun (samples ++ (later ++ [sample]))
          = trailingRun ((samples ++ later) ++ [sample]) := by rw [List.append_assoc]
        _ = trailingRun (samples ++ later) ++ [sample] := trailingRun_concat_of_same hearlier hsame
        _ = trailingRun samples ++ (later ++ [sample]) := by rw [hearlier, hrun, List.append_assoc]

/-! ## Stores -/

namespace PriceStore

private theorem heldAfter_eq_head? (samples : List Sample) :
    heldAfter samples = (trailingRun samples).head? := by
  induction samples using List.reverseRecOn with
  | nil => rfl
  | append_singleton samples sample ih =>
      rw [heldAfter_concat, ih]
      cases hrun : trailingRun samples with
      | nil =>
          rw [trailingRun_concat_of_news (by simp [hrun])]
          rfl
      | cons first rest =>
          by_cases hsame : first.SamePrice sample
          · rw [trailingRun_concat_of_same hrun hsame, hrun]
            exact if_pos hsame
          · rw [trailingRun_concat_of_news (by simpa [hrun] using hsame)]
            exact if_neg hsame

theorem load_eq_head? (entries : List (String × Sample)) (market : String) :
    (offerAll ∅ entries).2.load market = (trailingRun (offeredFor market entries)).head? := by
  rw [← heldAfter_eq_head?, load_offerAll]
  rfl

theorem offer_stored_iff (store : PriceStore) (market : String) (sample : Sample) :
    (store.offer market sample).1 = true ↔
      ∀ stored ∈ store.load market, ¬ stored.SamePrice sample := by
  unfold offer isNews
  cases store.load market with
  | none => simp
  | some stored =>
      cases hsame : stored.price == sample.price <;> simp [Sample.SamePrice, hsame]

end PriceStore

end IndexPrice

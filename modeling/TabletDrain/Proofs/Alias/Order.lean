import Mathlib.Order.Bounds.Basic
import TabletDrain.Proofs.Alias.Spelling
import TabletDrain.Proofs.Pass.Updates
import TabletDrain.Proofs.Succession.Polling
import TabletDrain.Proofs.Text.Order

/-! The order of the texts of aliases. Numbers are written with all their ten digits, so within a cell the
texts come in the order of the numbers; and so do the tablets of a shard in one cell, wherever a pass
goes through them. -/
namespace TabletDrain

namespace Text

theorem paddedDigits_lt_iff {width n m : Nat} (some : 0 < width) (small : n < 10 ^ width)
    (small' : m < 10 ^ width) : paddedDigits width n < paddedDigits width m ↔ n < m := by
  have length := (length_paddedDigits some small).trans (length_paddedDigits some small').symm
  rw [lt_iff_ofDigitChars_lt length (fun _ => isDigit_of_mem_paddedDigits)
    (fun _ => isDigit_of_mem_paddedDigits), ofDigitChars_paddedDigits, ofDigitChars_paddedDigits]

end Text

namespace Alias

variable {cell : String} {u v : Nat}

theorem text_lt_text_iff (small : u < uidBound) (small' : v < uidBound) :
    text ⟨cell, u⟩ < text ⟨cell, v⟩ ↔ u < v := by
  have behind : StrictMono fun digits => cell.toList ++ '-' :: digits := fun _ _ less =>
    List.append_left_lt (List.cons_lt_cons_iff.mpr (.inr ⟨rfl, less⟩))
  rw [String.lt_iff_toList_lt, toList_text, toList_text, behind.lt_iff_lt,
    Text.paddedDigits_lt_iff (by decide) (lt_pow_of_lt_uidBound small) (lt_pow_of_lt_uidBound small')]

theorem text_le_text_iff (small : u < uidBound) (small' : v < uidBound) :
    text ⟨cell, u⟩ ≤ text ⟨cell, v⟩ ↔ u ≤ v := by
  rw [← Std.not_lt, text_lt_text_iff small' small, Nat.not_lt]

theorem precedes_iff_text_le (small : u < uidBound) (small' : v < uidBound) :
    precedes ⟨cell, u⟩ ⟨cell, v⟩ = true ↔ text ⟨cell, u⟩ ≤ text ⟨cell, v⟩ := by
  rw [text_le_text_iff small small', precedes, if_pos rfl, decide_eq_true_eq]

end Alias

/-- All keys are the texts of tablets in the cell. -/
def Keyed.InCell {α : Type} (cell : String) (map : Keyed α) : Prop :=
  ∀ key ∈ map.keys, ∃ uid < Alias.uidBound, key = Alias.text ⟨cell, uid⟩

namespace Drain

variable {cell : String} {states : Keyed DrainState} {primary : Option String} {uid : Nat}

/-- The numbers of the tablets of a cell that are in a state. -/
def uidsIn (cell : String) (states : Keyed DrainState) (state : DrainState) : Set Nat :=
  {uid | uid < Alias.uidBound ∧ states.get? (Alias.text ⟨cell, uid⟩) = some state}

/-- In a cell, what holds of all keys in a state is to be shown for the numbers of the tablets. -/
theorem forall_get?_iff (inCell : states.InCell cell) {state : DrainState} {P : String → Prop} :
    (∀ key, states.get? key = some state → P key) ↔
      ∀ uid ∈ uidsIn cell states state, P (Alias.text ⟨cell, uid⟩) := by
  constructor
  · exact fun all uid member => all _ member.2
  · intro all key found
    obtain ⟨uid, small, rfl⟩ := inCell key (Keyed.mem_keys_iff.mpr ⟨state, found⟩)
    exact all uid ⟨small, found⟩

variable (inCell : states.InCell cell) (small : uid < Alias.uidBound)

include inCell small

theorem leadsFinished_iff_isLeast :
    LeadsFinished states (Alias.text ⟨cell, uid⟩) ↔ IsLeast (uidsIn cell states .finished) uid := by
  rw [LeadsFinished, forall_get?_iff inCell, IsLeast, mem_lowerBounds]
  refine and_congr ⟨fun found => ⟨small, found⟩, And.right⟩ (forall₂_congr fun other member => ?_)
  exact Alias.text_le_text_iff small member.1

/-- The least number is promoted, but the primary's only where no other is acknowledged. -/
theorem promoted_iff_isLeast :
    Promoted states primary (Alias.text ⟨cell, uid⟩) ↔ ¬Busy states ∧
      (IsLeast {other ∈ uidsIn cell states .acknowledged | some (Alias.text ⟨cell, other⟩) ≠ primary} uid ∨
        some (Alias.text ⟨cell, uid⟩) = primary ∧ uidsIn cell states .acknowledged = {uid}) := by
  have waits : states.get? (Alias.text ⟨cell, uid⟩) = some .acknowledged ↔
      uid ∈ uidsIn cell states .acknowledged := ⟨fun found => ⟨small, found⟩, And.right⟩
  rw [Promoted, forall_get?_iff inCell, forall_get?_iff inCell, waits, IsLeast, mem_lowerBounds,
    Set.eq_singleton_iff_unique_mem]
  refine and_congr_right fun _ => ?_
  have first : (∀ other ∈ uidsIn cell states .acknowledged, some (Alias.text ⟨cell, other⟩) ≠ primary →
      Alias.text ⟨cell, uid⟩ ≤ Alias.text ⟨cell, other⟩) ↔
      ∀ other ∈ {other ∈ uidsIn cell states .acknowledged | some (Alias.text ⟨cell, other⟩) ≠ primary},
        uid ≤ other := by
    constructor
    · exact fun least other member =>
        (Alias.text_le_text_iff small member.1.1).mp (least other member.1 member.2)
    · exact fun least other member secondary =>
        (Alias.text_le_text_iff small member.1).mpr (least other ⟨member, secondary⟩)
  have alone : (∀ other ∈ uidsIn cell states .acknowledged,
      Alias.text ⟨cell, other⟩ = Alias.text ⟨cell, uid⟩) ↔
      ∀ other ∈ uidsIn cell states .acknowledged, other = uid := by
    simp only [Alias.text_inj, Alias.mk.injEq, true_and]
  rw [first, alone]
  constructor
  · rintro ⟨member, ⟨secondary, least⟩ | ⟨isPrimary, only⟩⟩
    · exact .inl ⟨⟨member, secondary⟩, least⟩
    · exact .inr ⟨isPrimary, member, only⟩
  · rintro (⟨⟨member, secondary⟩, least⟩ | ⟨isPrimary, member, only⟩)
    · exact ⟨member, .inl ⟨secondary, least⟩⟩
    · exact ⟨member, .inr ⟨isPrimary, only⟩⟩

end Drain

/-- A pod in view names a tablet of the cell that its label says. -/
theorem ShardSpec.tablet?_of_inView {spec : ShardSpec} {pod : Pod} {cell : String}
    (inView : spec.inView pod = true) (labelled : pod.label? cellLabel = some cell) :
    ∃ uid < Alias.uidBound, pod.tablet? = some ⟨cell, uid⟩ := by
  obtain ⟨name, named⟩ := Option.isSome_iff_exists.mp (Bool.and_eq_true_iff.mp inView).2
  obtain ⟨tells, small⟩ := Pod.tablet?_eq_some_iff.mp named
  cases Option.some.inj (tells.cell.symm.trans labelled)
  exact ⟨name.uid, small, named⟩

namespace Pass

variable (configuration : Configuration) (replies : Replies) (stamp : String) (shard : Shard)
  (cluster : Cluster)

/-- Where all pods in view are in one cell, a pass sends them in the order of their numbers. -/
theorem sent_inOrder {cell : String} (labelled : ∀ pod ∈ cluster.pods,
      shard.spec.inView pod = true → pod.label? cellLabel = some cell) :
    (run configuration replies stamp shard cluster).sent.Pairwise fun sent sent' =>
      ∃ uid uid', sent.tablet? = some ⟨cell, uid⟩ ∧ sent'.tablet? = some ⟨cell, uid'⟩ ∧ uid < uid' := by
  let context := contextOf configuration replies stamp shard cluster
  have viewed {key : String} {pod : Pod} (found : context.view.get? key = some pod) :
      ∃ uid < Alias.uidBound, pod.tablet? = some ⟨cell, uid⟩ ∧ key = Alias.text ⟨cell, uid⟩ := by
    obtain ⟨member, inView, keyed⟩ := ShardSpec.of_mem_view (Keyed.mem_entries_iff.mpr found)
    obtain ⟨uid, small, named⟩ := ShardSpec.tablet?_of_inView inView (labelled pod member inView)
    rw [Pod.key?, named] at keyed
    exact ⟨uid, small, named, (Option.some.inj keyed).symm⟩
  refine List.Pairwise.sublist (run_does_updates _ _ _ _ _).1.sublist (List.pairwise_map.mpr ?_)
  refine context.updates_inOrder.imp_of_mem fun {update update'} member member' inOrder => ?_
  obtain ⟨key, key', found, found', before⟩ := inOrder
  obtain ⟨uid, small, named, rfl⟩ := viewed found
  obtain ⟨uid', small', named', rfl⟩ := viewed found'
  have same := (Context.amended_of_mem_updates member).tended.reannotated.tablet?
  have same' := (Context.amended_of_mem_updates member').tended.reannotated.tablet?
  exact ⟨uid, uid', same.trans named, same'.trans named', (Alias.text_lt_text_iff small small').mp before⟩

end Pass

/-- In a cell the texts of aliases are ordered by their bytes as the aliases are, by number; so the one
of the least number is kept finished or promoted, and the tablets that could take over and the pods that
are sent come by number. -/
theorem Alias.ordered_by_number_in_cell (cell : String) :
    (∀ u v, u < uidBound → v < uidBound →
      (Text.bytes (text ⟨cell, u⟩).toList < Text.bytes (text ⟨cell, v⟩).toList ↔ u < v) ∧
        (precedes ⟨cell, u⟩ ⟨cell, v⟩ = true ↔ text ⟨cell, u⟩ ≤ text ⟨cell, v⟩)) ∧
    (∀ (states : Keyed DrainState) primary uid, states.InCell cell → uid < uidBound →
      ((Drain.advance states primary).get? (text ⟨cell, uid⟩) = some .finished ↔
        IsLeast (Drain.uidsIn cell states .finished) uid ∨ ¬Drain.Busy states ∧
          (IsLeast {other ∈ Drain.uidsIn cell states .acknowledged |
              some (text ⟨cell, other⟩) ≠ primary} uid ∨
            some (text ⟨cell, uid⟩) = primary ∧ Drain.uidsIn cell states .acknowledged = {uid}))) ∧
    (∀ record tablets pods external, (∀ key tablet, tablets.get? key = some tablet →
        ∃ uid < uidBound, tablet.name = ⟨cell, uid⟩ ∧ key = text ⟨cell, uid⟩) →
      (Succession.eligible record tablets pods external).Pairwise fun a b => a.name.uid < b.name.uid) ∧
    ∀ configuration replies stamp shard cluster, (∀ pod ∈ cluster.pods,
        shard.spec.inView pod = true → pod.label? cellLabel = some cell) →
      (Pass.run configuration replies stamp shard cluster).sent.Pairwise fun sent sent' =>
        ∃ uid uid', sent.tablet? = some ⟨cell, uid⟩ ∧ sent'.tablet? = some ⟨cell, uid'⟩ ∧ uid < uid' := by
  refine ⟨fun u v small small' => ⟨?_, precedes_iff_text_le small small'⟩,
    fun states primary uid inCell small => ?_, fun record tablets pods external recorded => ?_,
    fun configuration replies stamp shard cluster labelled => Pass.sent_inOrder _ _ _ _ _ labelled⟩
  · rw [Text.bytes_lt_iff, text_lt_text_iff small small']
  · rw [Drain.get?_advance_eq_finished_iff, Drain.leadsFinished_iff_isLeast inCell small,
      Drain.promoted_iff_isLeast inCell small]
  · have keyed key tablet (found : tablets.get? key = some tablet) : tablet.name.text = key := by
      obtain ⟨uid, _, named, rfl⟩ := recorded key tablet found
      rw [named]
    refine (Succession.eligible_inOrder keyed).imp_of_mem fun {a b} member member' before => ?_
    obtain ⟨key, _, found, _⟩ := Succession.mem_eligible.mp member
    obtain ⟨key', _, found', _⟩ := Succession.mem_eligible.mp member'
    obtain ⟨uid, small, named, _⟩ := recorded key a found
    obtain ⟨uid', small', named', _⟩ := recorded key' b found'
    rw [named, named'] at before ⊢
    exact (text_lt_text_iff small small').mp before

/-- The smaller of the two numbers has one digit less, and its pod is listed last. -/
theorem Alias.ordered_by_number_in_cell_sample :
    let small := 999999999
    let large := 1000000000
    let states : Keyed DrainState := .ofList
      [(text ⟨"zone1", large⟩, .acknowledged), (text ⟨"zone1", small⟩, .acknowledged)]
    let tablets := Tablet.index [Sample.tablet large .replica, Sample.tablet small .replica]
    let pods := [Sample.pod "1000000000" [(startedMarker, "")], Sample.pod "999999999" [(startedMarker, "")]]
    let cluster := { Sample.cluster with pods := pods, tablets := tablets }
    let eligible := Succession.eligible cluster.record tablets
      (Pod.index [Sample.pod "1000000000" [], Sample.pod "999999999" []]) false
    let report := Pass.run Sample.configuration .atOnce "now" Sample.shard cluster
    small < uidBound ∧ large < uidBound ∧
      Text.bytes (text ⟨"zone1", small⟩).toList < Text.bytes (text ⟨"zone1", large⟩).toList ∧
      states.InCell "zone1" ∧
      (Drain.advance states none).get? (text ⟨"zone1", small⟩) = some .finished ∧
      IsLeast {other ∈ Drain.uidsIn "zone1" states .acknowledged |
        some (text ⟨"zone1", other⟩) ≠ none} small ∧
      (∀ key tablet, tablets.get? key = some tablet →
        ∃ uid < uidBound, tablet.name = ⟨"zone1", uid⟩ ∧ key = text ⟨"zone1", uid⟩) ∧
      eligible.length = 2 ∧ eligible.Pairwise (fun a b => a.name.uid < b.name.uid) ∧
      (∀ pod ∈ pods, Sample.spec.inView pod = true → pod.label? cellLabel = some "zone1") ∧
      report.sent.length = 2 ∧ report.sent.Pairwise fun sent sent' =>
        ∃ uid uid', sent.tablet? = some ⟨"zone1", uid⟩ ∧ sent'.tablet? = some ⟨"zone1", uid'⟩ ∧ uid < uid' := by
  intro small large states tablets pods cluster eligible report
  have bounded : small < uidBound := by decide
  have bounded' : large < uidBound := by decide
  have inCell : states.InCell "zone1" := by
    have keys : states.keys = [text ⟨"zone1", small⟩, text ⟨"zone1", large⟩] := by decide +kernel
    rw [Keyed.InCell, keys, List.forall_mem_cons, List.forall_mem_singleton]
    exact ⟨⟨small, bounded, rfl⟩, large, bounded', rfl⟩
  have recorded : ∀ key tablet, tablets.get? key = some tablet →
      ∃ uid < uidBound, tablet.name = ⟨"zone1", uid⟩ ∧ key = text ⟨"zone1", uid⟩ := by
    intro key tablet found
    have member := Keyed.mem_of_mem_ofList (Keyed.mem_entries_iff.mpr found)
    simp only [List.map_cons, List.map_nil, List.mem_cons, List.not_mem_nil, or_false,
      Prod.mk.injEq] at member
    rcases member with ⟨rfl, rfl⟩ | ⟨rfl, rfl⟩
    · exact ⟨large, bounded', rfl, rfl⟩
    · exact ⟨small, bounded, rfl, rfl⟩
  have labelled : ∀ pod ∈ pods, Sample.spec.inView pod = true → pod.label? cellLabel = some "zone1" := by
    decide +kernel
  obtain ⟨order, advance, takers, sent⟩ := ordered_by_number_in_cell "zone1"
  have chosen : (Drain.advance states none).get? (text ⟨"zone1", small⟩) = some .finished := by
    decide +kernel
  refine ⟨bounded, bounded', (order small large bounded bounded').1.mpr (by decide), inCell, chosen, ?_,
    recorded, by decide +kernel, takers _ _ _ _ recorded, labelled, by decide +kernel, sent _ _ _ _ _ labelled⟩
  rcases (advance states none small inCell bounded).mp chosen with kept | ⟨_, promoted | ⟨isPrimary, _⟩⟩
  · exact absurd kept.1.2 (by decide +kernel)
  · exact promoted
  · cases isPrimary

end TabletDrain

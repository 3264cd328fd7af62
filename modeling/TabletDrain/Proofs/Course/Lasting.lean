import TabletDrain.Proofs.Pass.Prompt
import TabletDrain.Proofs.Pass.Snapshots
import TabletDrain.Proofs.Stepwise

/-! What lasts over many passes. Passes alone do no more to the stored pods than one does: they tend
them. Where others edit the pods in between, a pod that keeps its request keeps the answers to it,
whatever the passes meet. -/
namespace TabletDrain

/-- A course of passes, over any shards and with any replies that store what is sent, and of edits of
a kind, with the stored pods after each write. -/
inductive Tenure (edits : List Pod → List Pod → Prop) : List Pod → List (List Pod) → Prop where
  | done (pods : List Pod) : Tenure edits pods []
  | pass (configuration : Configuration) (replies : Replies) (stamp : String) (shard : Shard)
      (cluster : Cluster) {stores : List (List Pod)} (faithful : Pass.Faithful replies)
      (rest : Tenure edits (Pass.run configuration replies stamp shard cluster).pods stores) :
      Tenure edits cluster.pods
        ((Pass.run configuration replies stamp shard cluster).history ++ stores)
  | edit {pods edited : List Pod} {stores : List (List Pod)} (edit : edits pods edited)
      (names : (edited.map Pod.shownName).Nodup) (rest : Tenure edits edited stores) :
      Tenure edits pods (edited :: stores)

section Courses

variable {edits related : List Pod → List Pod → Prop} {pods : List Pod} {stores : List (List Pod)}

/-- What holds over a pass and over an edit holds from any stored pods of a course to any later
ones, where it goes through all that lies between. -/
theorem Tenure.pairwise (tenure : Tenure edits pods stores) (meets : List Pod → Prop)
    (through : ∀ {first middle last}, meets middle → related first middle → related middle last →
      related first last)
    (tending : ∀ {before after}, (before.map Pod.shownName).Nodup → meets before →
      List.Forall₂ Pod.Tended before after → related before after)
    (editing : ∀ {before after}, (before.map Pod.shownName).Nodup → (after.map Pod.shownName).Nodup →
      meets before → meets after → edits before after → related before after)
    (names : (pods.map Pod.shownName).Nodup) (all : ∀ stored ∈ pods :: stores, meets stored) :
    (pods :: stores).Pairwise related := by
  induction tenure with
  | done pods => exact List.pairwise_singleton _ _
  | pass configuration replies stamp shard cluster faithful rest ih =>
    obtain ⟨within, ending, last⟩ := Pass.run_tends faithful names configuration stamp shard
    have same (stored : List Pod)
        (member : stored ∈ cluster.pods :: (Pass.run configuration replies stamp shard cluster).history) :
        (stored.map Pod.shownName).Nodup := by
      rw [← Pass.map_shownName_of_tended (ending stored member),
        Pass.map_shownName_of_tended (ending cluster.pods List.mem_cons_self)]
      exact names
    -- The last store of the pass, where the rest of the course begins, is what the two are joined by.
    rw [← List.cons_append] at all ⊢
    obtain ⟨here, later⟩ := List.forall_mem_append.mp all
    have following := ih (same _ last) (List.forall_mem_cons.mpr ⟨here _ last, later⟩)
    refine List.pairwise_append.mpr ⟨?_, (List.pairwise_cons.mp following).2, ?_⟩
    · exact within.imp_of_mem fun inside _ tended => tending (same _ inside) (here _ inside) tended
    · intro stored member after inside
      exact through (here _ last) (tending (same _ member) (here _ member) (ending stored member))
        ((List.pairwise_cons.mp following).1 after inside)
  | edit edit distinct rest ih =>
    obtain ⟨here, later⟩ := List.forall_mem_cons.mp all
    have following := ih distinct later
    have first := editing names distinct here (later _ List.mem_cons_self) edit
    refine List.pairwise_cons.mpr ⟨List.forall_mem_cons.mpr ⟨first, fun stored member => ?_⟩, following⟩
    exact through (later _ List.mem_cons_self) first ((List.pairwise_cons.mp following).1 stored member)

end Courses

theorem forall₂_tended_trans {first middle last : List Pod}
    (before : List.Forall₂ Pod.Tended first middle) (after : List.Forall₂ Pod.Tended middle last) :
    List.Forall₂ Pod.Tended first last := by
  induction before generalizing last with
  | nil => exact after
  | cons here _ ih =>
    obtain ⟨pod, rest, next, later, same⟩ := List.forall₂_cons_left_iff.mp after
    subst same
    exact .cons (here.trans next) (ih later)

/-- Every answer that the pod has stays, with its value. -/
def Pod.KeepsAnswers (before after : Pod) : Prop :=
  ∀ key value, IsAnswer key → before.annotation? key = some value → after.annotation? key = some value

/-- Others add, delete and change pods as they like, but take no answer from one that keeps its
request. -/
def Spares (before after : List Pod) : Prop :=
  ∀ old ∈ before, ∀ new ∈ after, new.shownName = old.shownName → old.markers.started = true →
    new.markers.started = true → old.KeepsAnswers new

/-- A pod of the name is stored, with a request. -/
def IsRequested (name : String) (pods : List Pod) : Prop :=
  ∃ pod ∈ pods, pod.shownName = name ∧ pod.markers.started = true

/-- The pod of the name keeps its answers from one store to the other. -/
def AnswersStay (name : String) (before after : List Pod) : Prop :=
  ∀ old ∈ before, ∀ new ∈ after, old.shownName = name → new.shownName = name → old.KeepsAnswers new

namespace AnswersStay

variable {name : String} {first middle last : List Pod}

theorem trans (requested : IsRequested name middle) (before : AnswersStay name first middle)
    (after : AnswersStay name middle last) : AnswersStay name first last := by
  intro old inside new inside' named named' key value answer found
  obtain ⟨pod, between, named'', _⟩ := requested
  exact after pod between new inside' named'' named' key value answer
    (before old inside pod between named named'' key value answer found)

theorem of_spares (names : (first.map Pod.shownName).Nodup) (names' : (last.map Pod.shownName).Nodup)
    (requested : IsRequested name first) (requested' : IsRequested name last)
    (spares : Spares first last) : AnswersStay name first last := by
  intro old inside new inside' named named'
  obtain ⟨pod, member, same, started⟩ := requested
  obtain ⟨pod', member', same', started'⟩ := requested'
  cases List.inj_on_of_nodup_map names inside member (named.trans same.symm)
  cases List.inj_on_of_nodup_map names' inside' member' (named'.trans same'.symm)
  exact spares old inside new inside' (named'.trans named.symm) started started'

theorem of_tended (names : (first.map Pod.shownName).Nodup) (requested : IsRequested name first)
    (tended : List.Forall₂ Pod.Tended first last) : AnswersStay name first last := by
  intro old inside new inside' named named' key value _ found
  obtain ⟨pod, member, same, started⟩ := requested
  obtain ⟨before, listed, tends⟩ := exists_of_mem_right tended inside'
  have kept := tends.reannotated.shownName
  cases List.inj_on_of_nodup_map names inside member (named.trans same.symm)
  cases List.inj_on_of_nodup_map names listed member (kept.symm.trans (named'.trans same.symm))
  exact tends.lasting started key value found

end AnswersStay

/-- A pass sends no pod twice, and each as it was listed, but for answers that it adds to a pod with
a request or takes back from one without. So passes alone change nothing else of any pod; and where
others edit the pods in between, a pod that keeps its request keeps its answers. -/
theorem answers_stick :
    (∀ (configuration : Configuration) (replies : Replies) (stamp : String) (shard : Shard)
      (cluster : Cluster), (cluster.pods.map Pod.shownName).Nodup →
        let report := Pass.run configuration replies stamp shard cluster
        (report.sent.map Pod.shownName).Nodup ∧
          ∀ sent ∈ report.sent, ∃ listed ∈ Cluster.podsWith cluster.pods shard.spec.podLabels,
            Pod.Amended stamp listed sent) ∧
    (∀ pods stores, Tenure (fun _ _ => False) pods stores → (pods.map Pod.shownName).Nodup →
      (pods :: stores).Pairwise (List.Forall₂ Pod.Tended)) ∧
    ∀ pods stores, Tenure Spares pods stores → (pods.map Pod.shownName).Nodup →
      ∀ name, (∀ stored ∈ pods :: stores, IsRequested name stored) →
        (pods :: stores).Pairwise (AnswersStay name) := by
  refine ⟨?_, ?_, ?_⟩
  · intro configuration replies stamp shard cluster names
    exact Pass.run_sends names configuration replies stamp shard
  · intro pods stores tenure names
    exact tenure.pairwise (fun _ => True) (fun _ => forall₂_tended_trans)
      (fun _ _ tended => tended) (fun _ _ _ _ edited => edited.elim) names fun _ _ => trivial
  · intro pods stores tenure names name requested
    exact tenure.pairwise (IsRequested name) AnswersStay.trans AnswersStay.of_tended
      AnswersStay.of_spares names requested

/-- Two passes, between which a pod is deleted. The first acknowledges the request of the second pod,
and the second finishes it. -/
theorem answers_stick_in_sample :
    let run (pods : List Pod) := Pass.run Sample.configuration .atOnce "now" Sample.shard
      { Sample.cluster with pods := pods }
    let edited := (run Sample.cluster.pods).pods.take 2
    let stores := (run Sample.cluster.pods).history ++ edited :: ((run edited).history ++ [])
    Tenure Spares Sample.cluster.pods stores ∧ (Sample.cluster.pods.map Pod.shownName).Nodup ∧
      (∀ stored ∈ Sample.cluster.pods :: stores, IsRequested "tablet-2" stored) ∧
      (Sample.cluster.pods :: stores).Pairwise (AnswersStay "tablet-2") ∧
      edited.map Pod.markers = [⟨true, true, false⟩, ⟨true, true, false⟩] ∧
      (run edited).pods.map Pod.markers = [⟨true, true, false⟩, ⟨true, true, true⟩] := by
  intro run edited stores
  have names : (Sample.cluster.pods.map Pod.shownName).Nodup := by decide
  have spares : Spares (run Sample.cluster.pods).pods edited := by
    have apart : ((run Sample.cluster.pods).pods.map Pod.shownName).Nodup := by decide
    intro old inside new inside' named _ _ key value _ found
    cases List.inj_on_of_nodup_map apart (List.mem_of_mem_take inside') inside named
    exact found
  have tenure : Tenure Spares Sample.cluster.pods stores :=
    .pass _ _ _ _ Sample.cluster (fun _ => rfl) (.edit spares (by decide)
      (.pass _ _ _ _ { Sample.cluster with pods := edited } (fun _ => rfl) (.done _)))
  have requested : ∀ stored ∈ Sample.cluster.pods :: stores, IsRequested "tablet-2" stored := by
    unfold IsRequested
    decide
  exact ⟨tenure, names, requested, answers_stick.2.2 _ _ tenure names _ requested,
    by decide, by decide⟩

end TabletDrain

import PodInventory.Proofs.Pod.Record

namespace PodInventory

namespace Update

def unseen : Update := ⟨.blank, ∅⟩

/-- Of updates with their times those that differ from what they find. -/
def news (current : Update) : List (String × Update) → List (String × Update)
  | [] => []
  | (time, u) :: rest => if u = current then news current rest else (time, u) :: news u rest

/-- What is discovered of a pod after updates, the last of which stays. -/
def latest (current : Update) (updates : List (String × Update)) : Update :=
  (updates.getLast?.map Prod.snd).getD current

theorem latest_append_singleton (current : Update) (updates : List (String × Update))
    (time : String) (u : Update) : latest current (updates ++ [(time, u)]) = u := by
  rw [latest, List.getLast?_concat]
  rfl

theorem news_append_singleton (current : Update) (updates : List (String × Update))
    (time : String) (u : Update) :
    news current (updates ++ [(time, u)]) =
      news current updates ++ if u = latest current updates then [] else [(time, u)] := by
  induction updates generalizing current with
  | nil =>
    by_cases hu : u = current
    · simp [news, latest, hu]
    · simp [news, latest, hu]
  | cons first rest ih =>
    obtain ⟨time', u'⟩ := first
    have hlatest : latest current ((time', u') :: rest) = latest u' rest := by
      cases rest with
      | nil => rfl
      | cons second rest => simp [latest, List.getLast?_cons]
    rw [hlatest, List.cons_append]
    by_cases hu : u' = current
    · rw [news, if_pos hu, ih, news, if_pos hu, hu]
    · rw [news, if_neg hu, ih, news, if_neg hu, List.cons_append]

end Update

namespace PodRecord

open Update

/-- A record that is all that its creation and its updates since then make of it. -/
structure Told (r : PodRecord) (time : String) (pod : NewPod) (updates : List (String × Update)) :
    Prop where
  name : r.name = pod.name
  kind : r.kind = pod.kind
  zone : r.zone = pod.zone
  pool : r.pool = pod.pool
  powerParameters : r.powerParameters = pod.powerParameters
  address : r.address = (pod.powerParameters.get? "power_address").bind PowerAddress.ip?
  createdAt : r.createdAt = time
  content : (⟨r.discovered, r.routable⟩ : Update) = latest unseen updates
  version : r.version.toNat = (1 + (news unseen updates).length) % UInt64.size
  updatedAt : r.updatedAt = ((news unseen updates).getLast?.map Prod.fst).getD time

theorem told_create (id : PodId) (time : String) (pod : NewPod) :
    (create id time pod).Told time pod [] where
  name := rfl
  kind := rfl
  zone := rfl
  pool := rfl
  powerParameters := rfl
  address := rfl
  createdAt := rfl
  content := rfl
  version := rfl
  updatedAt := rfl

theorem Told.apply {r : PodRecord} {time : String} {pod : NewPod}
    {updates : List (String × Update)} (h : r.Told time pod updates) (time' : String) (u : Update) :
    (r.apply time' u).Told time pod (updates ++ [(time', u)]) := by
  have hcontent := h.content
  cases hu : r.differs u with
  | false =>
    have hsame : u = latest unseen updates := (r.differs_eq_false_iff.1 hu).trans hcontent
    have hnews : news unseen (updates ++ [(time', u)]) = news unseen updates := by
      rw [news_append_singleton, if_pos hsame, List.append_nil]
    rw [r.apply_unchanged time' hu]
    refine { h with content := ?_, version := ?_, updatedAt := ?_ }
    · rw [latest_append_singleton, hsame]
      exact hcontent
    · rw [hnews]
      exact h.version
    · rw [hnews]
      exact h.updatedAt
  | true =>
    have hchanged : u ≠ latest unseen updates := by
      intro hsame
      rw [r.differs_eq_false_iff.2 (hsame.trans hcontent.symm)] at hu
      cases hu
    have hnews : news unseen (updates ++ [(time', u)]) =
        news unseen updates ++ [(time', u)] := by
      rw [news_append_singleton, if_neg hchanged]
    rw [r.apply_changed time' hu]
    refine ⟨h.name, h.kind, h.zone, h.pool, h.powerParameters, h.address, h.createdAt, ?_, ?_, ?_⟩
    · rw [latest_append_singleton]
    · rw [hnews, List.length_append, List.length_singleton, UInt64.toNat_add, h.version]
      simp only [UInt64.size, UInt64.reduceToNat]
      omega
    · rw [hnews, List.getLast?_concat]
      rfl

end PodRecord

end PodInventory

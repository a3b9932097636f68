import Eva4.ControllerLm.Opener

/-!
# Kill and terminate of opener actions

A request that has returned `Ok` must have settled every action it covers.  The invariant says for
each request what it has found out about these actions so far.
-/

namespace Eva4.ControllerLm

open Lib ActionTracker
open Items

lemma SeqRun.Over.ne_absent {run : SeqRun} (h : run.Over) : run ≠ .absent := by
  intro habsent
  rw [habsent] at h
  revert h
  decide

namespace OpenerAction

def Dead (t : OpenerAction) : Prop :=
  t.stage = .ended ∧ t.run = .absent

/-- Cancelled, or it will be when it is taken; or its sequence is terminated or has ended; or the
action is finished without a sequence. -/
def Settled (t : OpenerAction) (pending : Prop) : Prop :=
  (t.Waiting ∧ ¬ pending) ∨ t.stage = .cancelled ∨ t.run.Over ∨ t.Dead

def LiveAs (t : OpenerAction) (u : ActionUuid) : Prop :=
  t.uuid = u ∧ t.Live

def HandledFor (t : OpenerAction) (oid : OID) : Prop :=
  t.oid = oid ∧ t.Handled

/-- The sequence fits the stage of the action. -/
structure Consistent (t : OpenerAction) : Prop where
  absent : t.run = .absent ∨ t.stage = .called ∨ t.stage = .returned ∨ t.stage = .ended
  sent : t.stage = .called ∨ t.stage = .returned -> t.run ≠ .absent
  entered : t.entry ≠ .before -> t.run = .running ∨ t.run.Over
  left : t.entry = .after -> t.run.Over

variable {t t' : OpenerAction}

lemma Waiting.live (h : t.Waiting) : t.Live := by
  rcases h with hs | hs | hs <;> simp [Live, hs]

lemma Active.live (h : t.Active) : t.Live := by
  rcases h with hs | hs | hs <;> simp [Live, hs]

lemma UnderWay.live (h : t.UnderWay) : t.Live :=
  Or.inr h

lemma UnderWay.not_absent (h : t.UnderWay) : t.run ≠ .absent := by
  rcases h with hr | hr <;> simp [hr]

lemma UnderWay.not_over (h : t.UnderWay) : ¬ t.run.Over := by
  rcases h with hr | hr <;> simp [SeqRun.Over, hr]

lemma run_cases : t.run = .absent ∨ t.UnderWay ∨ t.run.Over := by
  unfold UnderWay SeqRun.Over
  cases t.run <;> simp

lemma Dead.settled (h : t.Dead) : t.Settled pending :=
  Or.inr (Or.inr (Or.inr h))

lemma settled_of_over (h : t.run.Over) : t.Settled pending :=
  Or.inr (Or.inr (Or.inl h))

lemma settled_of_not_live (h : ¬ t.Live) : t.Settled pending := by
  rcases run_cases (t := t) with habsent | hunderWay | hover
  · by_cases hended : t.stage = .ended
    · exact Dead.settled ⟨hended, habsent⟩
    · right
      left
      by_cases hcancelled : t.stage = .cancelled
      · exact hcancelled
      · exact absurd (Or.inl ⟨hended, hcancelled⟩) h
  · exact absurd hunderWay.live h
  · exact settled_of_over hover

lemma Consistent.of_absent (h : t.Consistent) (habsent : t.run = .absent) (hrun : t'.run = t.run)
    (hentry : t'.entry = t.entry) (hstage : ¬ (t'.stage = .called ∨ t'.stage = .returned)) :
    t'.Consistent where
  absent := Or.inl (hrun.trans habsent)
  sent hcalled := absurd hcalled hstage
  entered := by
    rw [hentry, hrun]
    exact h.entered
  left := by
    rw [hentry, hrun]
    exact h.left

/-- Before the core is called, only a waiting action that is off the tracker is settled. -/
theorem Settled.waiting {pending : Prop} (h : t.Settled pending) (habsent : t.run = .absent)
    (hlive : t.stage ≠ .ended ∧ t.stage ≠ .cancelled) : t.Waiting ∧ ¬ pending := by
  rcases h with hwaiting | hcancelled | hover | hdead
  · exact hwaiting
  · exact absurd hcancelled hlive.right
  · exact absurd habsent hover.ne_absent
  · exact absurd hdead.left hlive.left

lemma Settled.mono (h : t.Settled p) (hpq : q -> p) : t.Settled q := by
  rcases h with hwaiting | hrest
  · exact Or.inl ⟨hwaiting.left, fun hq => hwaiting.right (hpq hq)⟩
  · exact Or.inr hrest

structure Goes (t t' : OpenerAction) : Prop where
  oid : t'.oid = t.oid
  uuid : t'.uuid = t.uuid
  waiting : t'.Waiting <-> t.Waiting
  live : t'.Live -> t.Live
  handled : t'.Handled -> t.Handled
  active : t'.Active -> t.Active
  leaves : t.Active -> t'.Active ∨ t'.Dead
  underWay : t.UnderWay -> t'.UnderWay ∨ t'.run.Over
  dead : t.Dead -> t'.Dead
  settled : forall {pending}, t.Settled pending -> t'.Settled pending
  consistent : t.Consistent -> t'.Consistent

lemma goes_of_run (hoid : t'.oid = t.oid) (huuid : t'.uuid = t.uuid) (hstage : t'.stage = t.stage)
    (habsent : t'.run = .absent <-> t.run = .absent) (hover : t.run.Over -> t'.run.Over)
    (hconsistent : t.Consistent -> t'.Consistent) : Goes t t' where
  oid := hoid
  uuid := huuid
  waiting := by rw [Waiting, Waiting, hstage]
  live := by
    rw [Live, Live, hstage]
    refine Or.imp_right fun hunderWay => ?_
    rcases run_cases (t := t) with hr | hr | hr
    · exact absurd (habsent.mpr hr) hunderWay.not_absent
    · exact hr
    · exact absurd (hover hr) hunderWay.not_over
  handled := by
    rw [Handled, Handled, Active, Active, hstage]
    exact id
  active := by
    rw [Active, Active, hstage]
    exact id
  leaves := by
    rw [Active, Active, hstage]
    exact Or.inl
  underWay h := by
    rcases run_cases (t := t') with hr | hr
    · exact absurd (habsent.mp hr) h.not_absent
    · exact hr
  dead h := ⟨hstage.trans h.left, habsent.mpr h.right⟩
  settled := by
    intro pending h
    unfold Settled Waiting Dead at h ⊢
    rw [hstage]
    rcases h with hwaiting | hcancelled | hdone | hdead
    · exact Or.inl hwaiting
    · exact Or.inr (Or.inl hcancelled)
    · exact Or.inr (Or.inr (Or.inl (hover hdone)))
    · exact Or.inr (Or.inr (Or.inr ⟨hdead.left, habsent.mpr hdead.right⟩))
  consistent := hconsistent

lemma goes_of_stage (hoid : t'.oid = t.oid) (huuid : t'.uuid = t.uuid)
    (hsource : t.stage = .taken ∨ t.stage = .registered ∨ t.stage = .called)
    (htarget : t'.stage = .called ∨ t'.stage = .returned ∨ t'.stage = .ended)
    (hactive : t'.Active -> t.Active) (hleaves : t.Active -> t'.Active ∨ t'.Dead)
    (hrun : t'.run = t.run ∨ t.run = .absent) (hconsistent : t.Consistent -> t'.Consistent) :
    Goes t t' where
  oid := hoid
  uuid := huuid
  waiting := by
    unfold Waiting
    rcases hsource with hs | hs | hs <;> rcases htarget with ht | ht | ht <;> simp [hs, ht]
  live _ := by
    unfold Live
    rcases hsource with hs | hs | hs <;> simp [hs]
  handled _ := by
    unfold Handled Active
    rcases hsource with hs | hs | hs <;> simp [hs]
  active := hactive
  leaves := hleaves
  underWay h := by
    rcases hrun with hsame | habsent
    · rw [UnderWay, hsame]
      exact Or.inl h
    · exact absurd habsent h.not_absent
  dead h := by
    rw [h.left] at hsource
    simp at hsource
  settled := by
    intro pending h
    have hover : t.run.Over := by
      unfold Settled Waiting Dead at h
      rcases hsource with hs | hs | hs <;> simpa [hs] using h
    rcases hrun with hsame | habsent
    · rw [← hsame] at hover
      exact settled_of_over hover
    · exact absurd habsent hover.ne_absent
  consistent := hconsistent

lemma terminateSeq_goes (hcons : t.Consistent) (h : t.terminateSeq = some t') :
    Goes t t' ∧ t'.run.Over := by
  rcases of_guard h with ⟨hinside, h⟩
  have hover : t'.run.Over := by
    rw [← h]
    rcases hcons.entered (by rw [hinside]; decide) with hrunning | hdone
    · simp [hrunning, SeqRun.Over]
    · rcases hdone with hr | hr | hr <;> simp [hr, SeqRun.Over]
  refine ⟨?_, hover⟩
  rw [← h] at hover ⊢
  have hsent : t.run ≠ .absent := by
    intro habsent
    have hrun := hcons.entered (by rw [hinside]; decide)
    rw [habsent] at hrun
    exact absurd hrun (by decide)
  refine goes_of_run rfl rfl rfl ?_ ?_ ?_
  · exact ⟨fun hr => absurd hr hover.ne_absent, fun hr => absurd hr hsent⟩
  · exact fun _ => hover
  · intro _
    constructor
    · exact hcons.absent.imp_left fun habsent => absurd habsent hsent
    · exact fun _ => hover.ne_absent
    · exact fun _ => Or.inr hover
    · exact fun _ => hover

/-- The core does not know the sequence of an opener any more. -/
theorem Consistent.settled_of_unknown (h : t.Consistent) (hactive : t.Active ∨ t.UnderWay)
    (hstarting : ¬ t.Starting) (hunknown : t.terminateSeq = none) : t.Settled pending := by
  have houtside : t.entry ≠ .inside := by
    intro hinside
    rw [terminateSeq, if_pos hinside] at hunknown
    cases hunknown
  rcases run_cases (t := t) with habsent | hunderWay | hover
  · rcases hactive with (hregistered | hcalled) | hunderWay
    · exact absurd (Or.inl hregistered) hstarting
    · exact absurd habsent (h.sent hcalled)
    · exact absurd habsent hunderWay.not_absent
  · rcases hunderWay with hsent | hrunning
    · exact absurd (Or.inr (Or.inl hsent)) hstarting
    · cases hentry : t.entry with
      | before => exact absurd (Or.inr (Or.inr ⟨hrunning, hentry⟩)) hstarting
      | inside => exact absurd hentry houtside
      | after => exact settled_of_over (h.left hentry)
  · exact settled_of_over hover

lemma goes_setRun (hrun : t.UnderWay) (hnew : r = .running ∨ r.Over) :
    Goes t { t with run := r } := by
  have hsent : r ≠ .absent := by
    rcases hnew with hr | hover
    · rw [hr]
      decide
    · exact hover.ne_absent
  refine goes_of_run rfl rfl rfl ⟨fun hr => absurd hr hsent, fun hr => absurd hr hrun.not_absent⟩
    (fun hover => absurd hover hrun.not_over) fun hc => ?_
  constructor
  · exact hc.absent.imp_left fun hr => absurd hr hrun.not_absent
  · exact fun _ => hsent
  · exact fun _ => hnew
  · exact fun hafter => absurd (hc.left hafter) hrun.not_over

lemma goes_ended (hcons : t.Consistent) (hsource : t.stage = .taken ∨ t.stage = .registered) :
    Goes t { t with stage := .ended } := by
  have habsent : t.run = .absent := by
    rcases hsource with hs | hs <;> simpa [hs] using hcons.absent
  refine goes_of_stage rfl rfl (hsource.imp_right Or.inl) (Or.inr (Or.inr rfl)) ?_
    (fun _ => Or.inr ⟨rfl, habsent⟩) (Or.inl rfl) fun hc => hc.of_absent habsent rfl rfl (by simp)
  simp [Active]

lemma goes_returned (hstage : t.stage = .called) : Goes t { t with stage := .returned } := by
  refine goes_of_stage rfl rfl (Or.inr (Or.inr hstage)) (Or.inr (Or.inl rfl)) ?_ ?_ (Or.inl rfl) ?_
  · exact fun _ => Or.inr (Or.inl hstage)
  · exact fun _ => Or.inl (Or.inr (Or.inr rfl))
  · intro hc
    exact ⟨Or.inr (Or.inr (Or.inl rfl)), fun _ => hc.sent (Or.inl hstage), hc.entered, hc.left⟩

lemma goes_of_step {e : ActionStep} (hcons : t.Consistent) (h : t.step e = some t') :
    Goes t t' := by
  cases e with
  | accept =>
    rcases of_guard h with ⟨_, rfl⟩
    exact goes_of_run rfl rfl rfl Iff.rfl id fun hc => ⟨hc.absent, hc.sent, hc.entered, hc.left⟩
  | fail =>
    rcases of_guard h with ⟨hstage, rfl⟩
    exact goes_ended hcons (Or.inl hstage)
  | packFailed =>
    rcases of_guard h with ⟨hstage, rfl⟩
    exact goes_ended hcons (Or.inr hstage)
  | call =>
    rcases of_guard h with ⟨hstage, rfl⟩
    have habsent : t.run = .absent := by simpa [hstage] using hcons.absent
    have hentry : t.entry = .before := by
      by_cases hbefore : t.entry = .before
      · exact hbefore
      · have hrun := hcons.entered hbefore
        rw [habsent] at hrun
        exact absurd hrun (by decide)
    refine goes_of_stage rfl rfl (Or.inr (Or.inl hstage)) (Or.inl rfl) ?_ ?_ ?_ ?_
    · exact fun _ => Or.inl hstage
    · exact fun _ => Or.inl (Or.inr (Or.inl rfl))
    · exact Or.inr habsent
    · intro _
      exact ⟨Or.inr (Or.inl rfl), by simp, by simp [hentry], by simp [hentry]⟩
  | refuse =>
    rcases of_guard h with ⟨hrun, rfl⟩
    exact goes_setRun (Or.inl hrun) (Or.inr (Or.inl rfl))
  | spawn =>
    rcases of_guard h with ⟨hrun, rfl⟩
    exact goes_setRun (Or.inl hrun) (Or.inl rfl)
  | list =>
    rcases of_guard h with ⟨hready, rfl⟩
    refine goes_of_run rfl rfl rfl Iff.rfl id fun hc => ?_
    exact ⟨hc.absent, hc.sent, fun _ => hready.left.imp_right fun hr => Or.inr (Or.inl hr),
      by simp⟩
  | finish =>
    rcases of_guard h with ⟨hrun, rfl⟩
    exact goes_setRun (Or.inr hrun) (Or.inr (Or.inr (Or.inl rfl)))
  | unlist =>
    rcases of_guard h with ⟨hready, rfl⟩
    refine goes_of_run rfl rfl rfl Iff.rfl id fun hc => ?_
    have hover : t.run.Over := Or.inr (Or.inl hready.left)
    exact ⟨hc.absent, hc.sent, fun _ => Or.inr hover, fun _ => hover⟩
  | answer =>
    rcases of_guard h with ⟨hready, rfl⟩
    exact goes_returned hready.left
  | giveUp =>
    rcases of_guard h with ⟨hstage, rfl⟩
    exact goes_returned hstage
  | abort => exact (terminateSeq_goes hcons h).left

end OpenerAction

lemma covers_congr (target : StopTarget) (hoid : t'.oid = t.oid) (huuid : t'.uuid = t.uuid) :
    target.covers t' = target.covers t := by
  cases target with
  | kill oid => simp only [StopTarget.covers, hoid]
  | terminate u => simp only [StopTarget.covers, huuid]

namespace Openers

open OpenerAction (Active Live Waiting Dead Handled UnderWay Unlisted Consistent Settled)

variable {T : Type}

/-!
## The invariant
-/

def DeadAt (s : Openers T) (k : Nat) : Prop :=
  exists t : OpenerAction, s.actions[k]? = some t ∧ t.Dead

variable [ActionTracker T]

/-- What a request has found out about an action it covers. -/
def Meets (s : Openers T) (req : StopRequest) (n : Nat) (t : OpenerAction) : Prop :=
  match req.stage with
  | .arrived => True
  | .marked => t.Waiting -> ¬ s.Pending t
  | .calling k => t.Settled (s.Pending t) ∨ (n = k ∧ (t.Active ∨ t.UnderWay)) ∨
      (notFoundReply req.target = false ∧ s.DeadAt k)
  | .returned ok => ok = true -> t.Settled (s.Pending t)

structure Sound (s : Openers T) : Prop where
  unique : OneAt OpenerAction.LiveAs s.actions
  oneHandled : OneAt OpenerAction.HandledFor s.actions
  active : forall {n : Nat} {t : OpenerAction}, s.actions[n]? = some t -> t.Active ->
    s.byOid.lookup t.oid = some n ∧ s.byActionUuid.lookup t.uuid = some n
  named : forall {v : ActionUuid} {k : Nat}, s.byActionUuid.lookup v = some k ->
    exists t : OpenerAction, s.actions[k]? = some t ∧ t.uuid = v ∧ (t.Active ∨ t.Dead)
  tracked : forall {oid : OID} {v : ActionUuid},
    ActionTracker.isPending s.tracker oid v = true ->
      exists (n : Nat) (t : OpenerAction), s.actions[n]? = some t ∧ t.oid = oid ∧ t.uuid = v ∧
        t.Waiting
  consistent : forall t, t ∈ s.actions -> t.Consistent
  requests : forall req, req ∈ s.requests -> forall n, n ∈ req.covered ->
    exists t, s.actions[n]? = some t ∧ req.target.covers t = true ∧ s.Meets req n t

lemma new_sound [LawfulActionTracker T] : (new : Openers T).Sound where
  unique := OneAt.nil
  oneHandled := OneAt.nil
  active := by
    intro n t ht
    cases ht
  named := by
    intro v k hk
    cases hk
  tracked := by
    intro oid v hpending
    rw [new, LawfulActionTracker.pending_empty] at hpending
    cases hpending
  consistent := by
    intro t ht
    cases ht
  requests := by
    intro req hreq
    cases hreq

def Shrinks (s s' : Openers T) : Prop :=
  forall oid v, ActionTracker.isPending s'.tracker oid v = true ->
    ActionTracker.isPending s.tracker oid v = true

variable {s s' : Openers T} {n r : Nat} {t t' : OpenerAction} {queues : List OID}
  {req : StopRequest}

/-- What is known of an action, after it or something else has changed. -/
theorem Meets.imp (h : s.Meets req n t)
    (hwaiting : t'.Waiting -> s'.Pending t' -> t.Waiting ∧ s.Pending t)
    (hsettled : t.Settled (s.Pending t) -> t'.Settled (s'.Pending t'))
    (hactive : t.Active ∨ t.UnderWay -> (t'.Active ∨ t'.UnderWay) ∨ t'.Settled (s'.Pending t'))
    (hdead : forall k, s.DeadAt k -> s'.DeadAt k) : s'.Meets req n t' := by
  unfold Meets at h ⊢
  cases hstage : req.stage with
  | arrived => trivial
  | marked =>
    rw [hstage] at h
    intro hw hp
    have hboth := hwaiting hw hp
    exact h hboth.left hboth.right
  | calling k =>
    rw [hstage] at h
    rcases h with hdone | ⟨hk, hact⟩ | ⟨hreply, hkdead⟩
    · exact Or.inl (hsettled hdone)
    · rcases hactive hact with hact' | hdone
      · exact Or.inr (Or.inl ⟨hk, hact'⟩)
      · exact Or.inl hdone
    · exact Or.inr (Or.inr ⟨hreply, hdead k hkdead⟩)
  | returned ok =>
    rw [hstage] at h
    exact fun hok => hsettled (h hok)

structure Replaced (s s' : Openers T) (n : Nat) (t t' : OpenerAction) : Prop where
  place : s.actions[n]? = some t
  actions : s'.actions = s.actions.set n t'
  requests : s'.requests = s.requests
  shrinks : s.Shrinks s'
  oid : t'.oid = t.oid
  uuid : t'.uuid = t.uuid

section

variable (h : Replaced s s' n t t')
include h

lemma Replaced.cases (hu : s'.actions[m]? = some u) :
    (m = n ∧ u = t') ∨ (m ≠ n ∧ s.actions[m]? = some u) := by
  rw [h.actions] at hu
  exact getElem?_set_cases h.place hu

lemma Replaced.pending : s'.Pending t' -> s.Pending t := by
  rw [Pending, h.oid, h.uuid]
  exact h.shrinks t.oid t.uuid

lemma Replaced.self : s'.actions[n]? = some t' := by
  rw [h.actions, getElem?_set_if h.place, if_pos rfl]

lemma Replaced.other (hne : m ≠ n) : s'.actions[m]? = s.actions[m]? := by
  rw [h.actions, getElem?_set_if h.place, if_neg hne]

end

lemma untrack_shrinks [LawfulActionTracker T] :
    s.Shrinks (s.untrack t) ∧ ¬ (s.untrack t).Pending t := by
  unfold untrack Pending
  cases hremove : remove s.tracker t.oid t.uuid with
  | none =>
    refine ⟨fun _ _ => id, ?_⟩
    show ¬ isPending s.tracker t.oid t.uuid = true
    rw [LawfulActionTracker.remove_failed hremove]
    exact Bool.false_ne_true
  | some answer =>
    rcases LawfulActionTracker.pending_remove hremove with ⟨_, hgone, hless⟩
    refine ⟨hless, ?_⟩
    show ¬ isPending answer.1 t.oid t.uuid = true
    rw [hgone]
    exact Bool.false_ne_true

lemma untrack_rest (s : Openers T) (t : OpenerAction) :
    (s.untrack t).byOid = s.byOid ∧ (s.untrack t).byActionUuid = s.byActionUuid ∧
      (s.untrack t).actions = s.actions ∧ (s.untrack t).requests = s.requests := by
  unfold untrack
  split
  · exact ⟨rfl, rfl, rfl, rfl⟩
  · exact ⟨rfl, rfl, rfl, rfl⟩

lemma replaced_untrack [LawfulActionTracker T] (hn : s.actions[n]? = some t) (hoid : t'.oid = t.oid)
    (huuid : t'.uuid = t.uuid) : Replaced s ((s.untrack t).setAction n t') n t t' where
  place := hn
  actions := by rw [setAction, (untrack_rest s t).2.2.1]
  requests := (untrack_rest s t).2.2.2
  shrinks := untrack_shrinks.left
  oid := hoid
  uuid := huuid

lemma not_pending_untrack [LawfulActionTracker T] (hoid : t'.oid = t.oid) (huuid : t'.uuid = t.uuid)
    : ¬ ((s.untrack t).setAction n t').Pending t' := by
  rw [Pending, hoid, huuid]
  exact untrack_shrinks.right

theorem takeStage_cases [LawfulActionTracker T] (s : Openers T) (t : OpenerAction) :
    (s.takeStage t = .taken ∧ s.Pending t) ∨ s.takeStage t = .cancelled ∨
      s.takeStage t = .ended := by
  unfold takeStage
  cases hremove : remove s.tracker t.oid t.uuid with
  | none => exact Or.inr (Or.inr rfl)
  | some answer =>
    rcases answer with ⟨tracker, b⟩
    cases b with
    | true =>
      left
      exact ⟨rfl, (LawfulActionTracker.pending_remove hremove).1.symm⟩
    | false => exact Or.inr (Or.inl rfl)

omit [ActionTracker T] in
lemma covered_of_mem (h : n ∈ s.coveredBy target) :
    exists t : OpenerAction, s.actions[n]? = some t ∧ target.covers t = true := by
  have hany := (List.mem_filter.mp h).right
  rcases (Option.any_eq_true ..).mp hany with ⟨t, ht, hboth⟩
  exact ⟨t, ht, (Bool.and_eq_true_iff.mp hboth).right⟩

lemma covers_kill (h : (StopTarget.kill oid).covers t = true) : t.oid = oid :=
  of_decide_eq_true h

lemma covers_terminate (h : (StopTarget.terminate u).covers t = true) : t.uuid = u :=
  of_decide_eq_true h

lemma stage_cases : t.Waiting ∨ t.Unlisted ∨ t.Active ∨ ¬ t.Live := by
  unfold Waiting Unlisted Active Live
  cases t.stage <;> simp [Decidable.em]

structure Proceeds (s s' : Openers T) (t t' : OpenerAction) : Prop where
  live : t'.Live -> t.Live
  handled : t'.Handled -> t.Handled ∨ forall u, u ∈ s.actions -> u.oid = t.oid -> ¬ u.Handled
  tracked : t.Waiting -> s'.Pending t' -> t'.Waiting
  waiting : t'.Waiting -> t.Waiting
  settled : t.Settled (s.Pending t) -> t'.Settled (s'.Pending t')
  dead : t.Dead -> t'.Dead
  consistent : t'.Consistent

section

variable (h : s.Sound)
include h

section

variable (hrep : Replaced s s' n t t')
include hrep

lemma Sound.replace (hstep : Proceeds s s' t t')
    (hactive : forall {m : Nat} {u : OpenerAction}, s'.actions[m]? = some u -> u.Active ->
      s'.byOid.lookup u.oid = some m ∧ s'.byActionUuid.lookup u.uuid = some m)
    (hnamed : forall {v : ActionUuid} {k : Nat}, s'.byActionUuid.lookup v = some k ->
      exists u : OpenerAction, s'.actions[k]? = some u ∧ u.uuid = v ∧ (u.Active ∨ u.Dead))
    (hleaves : t.Active ∨ t.UnderWay -> (t'.Active ∨ t'.UnderWay) ∨ t'.Settled (s'.Pending t')) :
    s'.Sound where
  unique := by
    rw [hrep.actions]
    refine h.unique.set hrep.place fun hnew hu hlive => ?_
    exact h.unique hu hrep.place hlive ⟨hrep.uuid.symm.trans hnew.left, hstep.live hnew.right⟩
  oneHandled := by
    rw [hrep.actions]
    refine h.oneHandled.set hrep.place fun hnew hu hhandled => ?_
    have hoid := hrep.oid.symm.trans hnew.left
    rcases hstep.handled hnew.right with hold | hidle
    · exact h.oneHandled hu hrep.place hhandled ⟨hoid, hold⟩
    · exact absurd hhandled.right
        (hidle _ (List.mem_of_getElem? hu) (hhandled.left.trans hoid.symm))
  active := hactive
  named := hnamed
  tracked := by
    intro oid v hpending
    rcases h.tracked (hrep.shrinks oid v hpending) with ⟨m, u, hu, huoid, huuid, huwaiting⟩
    by_cases heq : m = n
    · rw [heq, hrep.place] at hu
      injection hu with hu
      have hoid' : t'.oid = oid := by rw [hrep.oid, hu, huoid]
      have huuid' : t'.uuid = v := by rw [hrep.uuid, hu, huuid]
      rw [← hu] at huwaiting
      refine ⟨n, t', hrep.self, hoid', huuid', hstep.tracked huwaiting ?_⟩
      rw [Pending, hoid', huuid']
      exact hpending
    · exact ⟨m, u, (hrep.other heq).trans hu, huoid, huuid, huwaiting⟩
  consistent := by
    rw [hrep.actions]
    exact forall_mem_set h.consistent hstep.consistent
  requests := by
    intro req hreq m hm
    rw [hrep.requests] at hreq
    rcases h.requests req hreq m hm with ⟨u, hu, hcovers, hmeets⟩
    have hdeads : forall k, s.DeadAt k -> s'.DeadAt k := by
      intro k hk
      rcases hk with ⟨u, hu, hudead⟩
      by_cases heq : k = n
      · rw [heq, hrep.place] at hu
        cases hu
        rw [heq]
        exact ⟨t', hrep.self, hstep.dead hudead⟩
      · exact ⟨u, (hrep.other heq).trans hu, hudead⟩
    by_cases heq : m = n
    · rw [heq, hrep.place] at hu
      cases hu
      rw [heq] at hmeets ⊢
      refine ⟨t', hrep.self, ?_, ?_⟩
      · rw [covers_congr req.target hrep.oid hrep.uuid]
        exact hcovers
      · exact hmeets.imp (fun hw hp => ⟨hstep.waiting hw, hrep.pending hp⟩) hstep.settled hleaves
          hdeads
    · have hpending : s'.Pending u -> s.Pending u := hrep.shrinks u.oid u.uuid
      exact ⟨u, (hrep.other heq).trans hu, hcovers, hmeets.imp (fun hw hp => ⟨hw, hpending hp⟩)
        (fun hdone => hdone.mono hpending) Or.inl hdeads⟩

/-!
## Steps of the actions
-/

lemma Sound.named_after (hstate : t.uuid = v -> t.Active ∨ t.Dead -> t'.Active ∨ t'.Dead)
    (hk : s.byActionUuid.lookup v = some k) : exists u : OpenerAction,
      s'.actions[k]? = some u ∧ u.uuid = v ∧ (u.Active ∨ u.Dead) := by
  rcases h.named hk with ⟨u, hu, huuid, hold⟩
  by_cases heq : k = n
  · rw [heq, hrep.place] at hu
    cases hu
    rw [heq]
    exact ⟨t', hrep.self, hrep.uuid.trans huuid, hstate huuid hold⟩
  · exact ⟨u, (hrep.other heq).trans hu, huuid, hold⟩

lemma Sound.replace_within (hbyOid : s'.byOid = s.byOid)
    (hbyUuid : s'.byActionUuid = s.byActionUuid) (hstep : Proceeds s s' t t')
    (hactive : t'.Active -> t.Active) (hleaves : t.Active -> t'.Active ∨ t'.Dead)
    (hunderWay : t.UnderWay -> t'.UnderWay ∨ t'.run.Over) : s'.Sound := by
  refine h.replace hrep hstep ?_ ?_ ?_
  · intro m u hu hact
    rw [hbyOid, hbyUuid]
    rcases hrep.cases hu with ⟨hm, hu'⟩ | ⟨_, hu'⟩
    · rw [hm, hu', hrep.oid, hrep.uuid]
      rw [hu'] at hact
      exact h.active hrep.place (hactive hact)
    · exact h.active hu' hact
  · intro v k hk
    rw [hbyUuid] at hk
    exact h.named_after hrep (fun _ hold => hold.elim hleaves fun hd => Or.inr (hstep.dead hd)) hk
  · intro hold
    rcases hold with hact | hrun
    · exact (hleaves hact).imp Or.inl Dead.settled
    · exact (hunderWay hrun).imp Or.inr OpenerAction.settled_of_over

lemma Sound.goes (hbyOid : s'.byOid = s.byOid) (hbyUuid : s'.byActionUuid = s.byActionUuid)
    (hgoes : t.Goes t') : s'.Sound := by
  refine h.replace_within hrep hbyOid hbyUuid ⟨hgoes.live, fun hh => Or.inl (hgoes.handled hh), ?_,
    hgoes.waiting.mp, ?_, hgoes.dead, ?_⟩ hgoes.active hgoes.leaves hgoes.underWay
  · exact fun hw _ => hgoes.waiting.mpr hw
  · exact fun hdone => (hgoes.settled hdone).mono hrep.pending
  · exact hgoes.consistent (h.consistent t (List.mem_of_getElem? hrep.place))

theorem Sound.replace_waiting (hbyOid : s'.byOid = s.byOid)
    (hbyUuid : s'.byActionUuid = s.byActionUuid) (hw : t.Waiting)
    (hrun : t'.run = t.run) (hentry : t'.entry = t.entry) (hinactive : ¬ t'.Active)
    (hhandled : t'.Handled -> t.Handled ∨ forall u, u ∈ s.actions -> u.oid = t.oid -> ¬ u.Handled)
    (htracked : s'.Pending t' -> t'.Waiting)
    (hsettled : t.run = .absent -> ¬ s.Pending t -> t'.Settled (s'.Pending t')) : s'.Sound := by
  have hcons := h.consistent t (List.mem_of_getElem? hrep.place)
  have habsent : t.run = .absent := by
    rcases hw with hs | hs | hs <;> simpa [hs] using hcons.absent
  have hstage : t.stage ≠ .ended ∧ t.stage ≠ .cancelled := by
    rcases hw with hs | hs | hs <;> simp [hs]
  refine h.replace_within hrep hbyOid hbyUuid ⟨fun _ => hw.live, hhandled, fun _ => htracked,
    fun _ => hw, ?_, ?_, ?_⟩ (fun hact => absurd hact hinactive) ?_
    fun hrun => absurd habsent hrun.not_absent
  · exact fun hdone => hsettled habsent (hdone.waiting habsent hstage).right
  · exact fun hdead => absurd hdead.left hstage.left
  · exact hcons.of_absent habsent hrun hentry fun hs => hinactive (Or.inr hs)
  · rcases hw with hs | hs | hs <;> simp [Active, hs]

end

theorem Sound.progress (hn : s.actions[n]? = some t) (hgoes : t.Goes t') :
    (s.setAction n t').Sound :=
  h.goes ⟨hn, rfl, rfl, fun _ _ => id, hgoes.oid, hgoes.uuid⟩ rfl rfl hgoes

lemma Sound.of_guarded {p : OpenerAction -> Prop} [DecidablePred p] {f : OpenerAction -> Openers T}
    (hstep : (s.actions[n]?.bind fun t => if p t then some (f t) else none) = some s') :
    exists t, s.actions[n]? = some t ∧ t.Consistent ∧ p t ∧ f t = s' := by
  rcases Option.bind_eq_some_iff.mp hstep with ⟨t, hn, hstep⟩
  rcases of_guard hstep with ⟨hp, hs'⟩
  exact ⟨t, hn, h.consistent t (List.mem_of_getElem? hn), hp, hs'⟩

lemma Sound.enqueue (hstep : step queues s (.enqueue n) = some s') : s'.Sound := by
  rcases h.of_guarded hstep with ⟨t, hn, _, hstage, hs'⟩
  rw [← hs']
  refine h.replace_waiting ⟨hn, rfl, rfl, fun _ _ => id, rfl, rfl⟩ rfl rfl (Or.inl hstage) rfl rfl
    ?_ ?_ (fun _ => Or.inr (Or.inl rfl)) (fun _ hp => Or.inl ⟨Or.inr (Or.inl rfl), hp⟩)
  · simp [Active]
  · simp [Handled, Active]

lemma Sound.enqueueFailed [LawfulActionTracker T]
    (hstep : step queues s (.enqueueFailed n) = some s') : s'.Sound := by
  rcases h.of_guarded hstep with ⟨t, hn, _, hstage, hs'⟩
  have hrest := untrack_rest s t
  rw [← hs']
  refine h.replace_waiting (replaced_untrack hn rfl rfl) hrest.1 hrest.2.1 (Or.inl hstage) rfl rfl
    ?_ ?_ (fun hp => absurd hp (not_pending_untrack rfl rfl))
    fun habsent _ => Dead.settled ⟨rfl, habsent⟩
  · simp [Active]
  · simp [Handled, Active]

lemma Sound.acceptFailed [LawfulActionTracker T] (hstep : step queues s (.acceptFailed n) = some s')
    : s'.Sound := by
  rcases h.of_guarded hstep with ⟨t, hn, _, _, hs'⟩
  have hrest := untrack_rest s t
  rw [← hs']
  exact h.goes (replaced_untrack hn rfl rfl) hrest.1 hrest.2.1
    (.mk rfl rfl Iff.rfl id id id Or.inl Or.inl id id fun hc =>
      ⟨hc.absent, hc.sent, hc.entered, hc.left⟩)

lemma Sound.dequeue (hstep : step queues s (.dequeue n) = some s') : s'.Sound := by
  rcases h.of_guarded hstep with ⟨t, hn, _, hready, hs'⟩
  have hidle : forall u, u ∈ s.actions -> u.oid = t.oid -> ¬ u.Handled := by
    intro u hu hoid
    have hnext := List.all_eq_true.mp hready.right u hu
    simp [hoid] at hnext
    exact hnext.left
  rw [← hs']
  refine h.replace_waiting ⟨hn, rfl, rfl, fun _ _ => id, rfl, rfl⟩ rfl rfl
    (Or.inr (Or.inl hready.left)) rfl rfl ?_ (fun _ => Or.inr hidle)
    (fun _ => Or.inr (Or.inr rfl)) (fun _ hp => Or.inl ⟨Or.inr (Or.inr rfl), hp⟩)
  simp [Active]

lemma Sound.take [LawfulActionTracker T] (hstep : step queues s (.take n) = some s') :
    s'.Sound := by
  rcases h.of_guarded hstep with ⟨t, hn, _, hstage, hs'⟩
  have hrest := untrack_rest s t
  have htake := takeStage_cases s t
  rw [← hs']
  generalize s.takeStage t = stage at htake
  refine h.replace_waiting (replaced_untrack hn rfl rfl) hrest.1 hrest.2.1 (Or.inr (Or.inr hstage))
    rfl rfl ?_ (fun _ => Or.inl (Or.inl hstage))
    (fun hp => absurd hp (not_pending_untrack rfl rfl)) ?_
  · rcases htake with ⟨hs, _⟩ | hs | hs <;> simp [Active, hs]
  · intro habsent hp
    rcases htake with ⟨_, hpending⟩ | hs | hs
    · exact absurd hpending hp
    · exact Or.inr (Or.inl hs)
    · exact Dead.settled ⟨hs, habsent⟩

lemma Sound.active_distinct (hn : s.actions[n]? = some t) (hlive : t.Live) (hhandled : t.Handled)
    (hm : s.actions[m]? = some u) (hact : u.Active) (hne : m ≠ n) :
    u.oid ≠ t.oid ∧ u.uuid ≠ t.uuid := by
  constructor
  · exact fun heq => hne (h.oneHandled hm hn ⟨heq, Or.inr (Or.inr hact)⟩ ⟨rfl, hhandled⟩)
  · exact fun heq => hne (h.unique hm hn ⟨heq, hact.live⟩ ⟨rfl, hlive⟩)

lemma Sound.register (hstep : step queues s (.register n) = some s') : s'.Sound := by
  rcases h.of_guarded hstep with ⟨t, hn, hcons, hstage, hs'⟩
  have habsent : t.run = .absent := by simpa [hstage] using hcons.absent
  have hlive : t.Live := by simp [Live, hstage]
  have hhandled : t.Handled := Or.inr (Or.inl hstage)
  have hrep : Replaced s s' n t { t with stage := .registered } := by
    rw [← hs']
    exact ⟨hn, rfl, rfl, fun _ _ => id, rfl, rfl⟩
  refine h.replace hrep ⟨fun _ => hlive, fun _ => Or.inl hhandled, ?_, ?_, ?_, ?_,
    hcons.of_absent habsent rfl rfl (by simp)⟩ ?_ ?_ fun _ => Or.inl (Or.inl (Or.inl rfl))
  · simp [Waiting, hstage]
  · simp [Waiting]
  · intro hdone
    have hwaiting := (hdone.waiting habsent (by simp [hstage])).left
    simp [Waiting, hstage] at hwaiting
  · simp [Dead, hstage]
  · intro m u hu hact
    simp only [← hs', setAction, Openers.register, Table.lookup_insert_if]
    rcases hrep.cases hu with ⟨hm, hu'⟩ | ⟨hm, hu'⟩
    · rw [hm, hu', if_pos rfl, if_pos rfl]
      exact ⟨rfl, rfl⟩
    · have hdistinct := h.active_distinct hn hlive hhandled hu' hact hm
      rw [if_neg hdistinct.left, if_neg hdistinct.right]
      exact h.active hu' hact
  · intro v k hk
    simp only [← hs', setAction, Openers.register, Table.lookup_insert_if] at hk
    split at hk
    · next heq =>
      cases hk
      exact ⟨_, hrep.self, heq.symm, Or.inl (Or.inl rfl)⟩
    · exact h.named_after hrep (fun _ _ => Or.inl (Or.inl rfl)) hk

lemma Sound.unregister (hstep : step queues s (.unregister n) = some s') : s'.Sound := by
  rcases h.of_guarded hstep with ⟨t, hn, hcons, hstage, hs'⟩
  have hlive : t.Live := by simp [Live, hstage]
  have hhandled : t.Handled := Or.inr (Or.inr (Or.inr (Or.inr hstage)))
  have hrep : Replaced s s' n t { t with stage := .ended } := by
    rw [← hs']
    exact ⟨hn, rfl, rfl, fun _ _ => id, rfl, rfl⟩
  -- the core may not have answered, and the sequence is under way without its opener
  have hrun : t.UnderWay ∨ t.run.Over :=
    OpenerAction.run_cases.resolve_left (hcons.sent (Or.inr hstage))
  refine h.replace hrep ⟨fun _ => hlive, fun _ => Or.inl hhandled, ?_, ?_, ?_, ?_,
    ⟨Or.inr (Or.inr (Or.inr rfl)), by simp, hcons.entered, hcons.left⟩⟩ ?_ ?_
    fun _ => hrun.imp Or.inr OpenerAction.settled_of_over
  · simp [Waiting, hstage]
  · simp [Waiting]
  · intro hdone
    refine OpenerAction.settled_of_over ?_
    unfold Settled Waiting Dead at hdone
    simpa [hstage] using hdone
  · simp [Dead, hstage]
  · intro m u hu hact
    simp only [← hs', setAction, Openers.unregister, Table.lookup_erase_if]
    rcases hrep.cases hu with ⟨_, hu'⟩ | ⟨hm, hu'⟩
    · rw [hu'] at hact
      simp [Active] at hact
    · have hdistinct := h.active_distinct hn hlive hhandled hu' hact hm
      rw [if_neg hdistinct.left, if_neg hdistinct.right]
      exact h.active hu' hact
  · intro v k hk
    simp only [← hs', setAction, Openers.unregister, Table.lookup_erase_if] at hk
    split at hk
    · cases hk
    · next hne => exact h.named_after hrep (fun huuid => absurd huuid.symm hne) hk

/-!
## Actions come
-/

lemma Sound.append [LawfulActionTracker T] {tracker : T}
    (htracker : append s.tracker t.oid t.uuid = some tracker) (hstage : t.stage = .appended)
    (hrun : t.run = .absent) (hentry : t.entry = .before)
    (hfresh : forall u, u ∈ s.actions -> u.uuid = t.uuid -> ¬ u.Live) :
    ({ s with tracker := tracker, actions := s.actions ++ [t] } : Openers T).Sound := by
  have hold : forall {m : Nat} {u : OpenerAction}, s.actions[m]? = some u ->
      (s.actions ++ [t])[m]? = some u := by
    intro m u hu
    rw [List.getElem?_append_left (List.getElem?_eq_some_iff.mp hu).1]
    exact hu
  have hkeeps : forall {u : OpenerAction}, u ∈ s.actions -> u.Waiting ->
      isPending tracker u.oid u.uuid = true -> s.Pending u := by
    intro u hu hwaiting hp
    rcases LawfulActionTracker.pending_append htracker u.oid u.uuid hp with hbefore | hsame
    · exact hbefore
    · exact absurd hwaiting.live (hfresh u hu hsame.right)
  constructor
  · apply h.unique.concat
    exact fun hnew u hu hlive => hfresh u hu (hlive.left.trans hnew.left.symm) hlive.right
  · apply h.oneHandled.concat
    intro oid hnew
    have hhandled := hnew.right
    simp [Handled, Active, hstage] at hhandled
  · intro m u hu hact
    rcases getElem?_concat_cases hu with rfl | hu'
    · simp [Active, hstage] at hact
    · exact h.active hu' hact
  · intro v k hk
    rcases h.named hk with ⟨u, hu, hstate⟩
    exact ⟨u, hold hu, hstate⟩
  · intro oid v hp
    rcases LawfulActionTracker.pending_append htracker oid v hp with hbefore | hsame
    · rcases h.tracked hbefore with ⟨m, u, hu, hstate⟩
      exact ⟨m, u, hold hu, hstate⟩
    · exact ⟨s.actions.length, t, List.getElem?_concat_length, hsame.left.symm,
        hsame.right.symm, Or.inl hstage⟩
  · apply forall_mem_concat h.consistent
    exact ⟨Or.inl hrun, by simp [hstage], by simp [hentry], by simp [hentry]⟩
  · intro req hreq m hm
    rcases h.requests req hreq m hm with ⟨u, hu, hcovers, hmeets⟩
    refine ⟨u, hold hu, hcovers, ?_⟩
    have hsettled : u.Settled (s.Pending u) ->
        u.Settled (isPending tracker u.oid u.uuid = true) := by
      intro hdone
      rcases hdone with hwaiting | hrest
      · exact Or.inl ⟨hwaiting.left, fun hp =>
          hwaiting.right (hkeeps (List.mem_of_getElem? hu) hwaiting.left hp)⟩
      · exact Or.inr hrest
    apply hmeets.imp _ hsettled Or.inl
    · intro k hk
      rcases hk with ⟨v, hv, hdead⟩
      exact ⟨v, hold hv, hdead⟩
    · exact fun hw hp => ⟨hw, hkeeps (List.mem_of_getElem? hu) hw hp⟩

/-!
## Steps of the requests
-/

lemma Sound.request (hstep : step queues s (.request target) = some s') : s'.Sound := by
  cases hstep
  refine ⟨h.unique, h.oneHandled, h.active, h.named, h.tracked, h.consistent, ?_⟩
  apply forall_mem_concat h.requests
  intro n hn
  rcases covered_of_mem hn with ⟨t, ht, hcovers⟩
  exact ⟨t, ht, hcovers, trivial⟩

theorem Sound.setRequest (hr : s.requests[r]? = some req) {tracker : T}
    (hshrinks : s.Shrinks { s with tracker := tracker })
    (htarget : req'.target = req.target) (hcovered : req'.covered = req.covered)
    (hmeets : forall {n : Nat} {t : OpenerAction}, n ∈ req.covered ->
      s.actions[n]? = some t -> req.target.covers t = true -> s.Meets req n t ->
        ({ s with tracker := tracker } : Openers T).Meets req' n t) :
    (({ s with tracker := tracker } : Openers T).setRequest r req').Sound := by
  refine ⟨h.unique, h.oneHandled, h.active, h.named, ?_, h.consistent, ?_⟩
  · exact fun hp => h.tracked (hshrinks _ _ hp)
  · intro other hother n hn
    rcases List.mem_or_eq_of_mem_set hother with hold | hnew
    · rcases h.requests other hold n hn with ⟨t, ht, hcovers, hbefore⟩
      have hpending : ({ s with tracker := tracker } : Openers T).Pending t -> s.Pending t :=
        hshrinks t.oid t.uuid
      refine ⟨t, ht, hcovers, hbefore.imp ?_ ?_ Or.inl fun _ => id⟩
      · exact fun hw hp => ⟨hw, hpending hp⟩
      · exact fun hdone => hdone.mono hpending
    · rw [hnew, hcovered] at hn
      rcases h.requests req (List.mem_of_getElem? hr) n hn with ⟨t, ht, hcovers, hbefore⟩
      rw [hnew]
      refine ⟨t, ht, ?_, hmeets hn ht hcovers hbefore⟩
      rw [htarget]
      exact hcovers

lemma Sound.mark [LawfulActionTracker T] (hstep : step queues s (.mark r) = some s') :
    s'.Sound := by
  rcases Option.bind_eq_some_iff.mp hstep with ⟨req, hr, hstep⟩
  rcases of_guard hstep with ⟨_, rfl⟩
  unfold markStep
  split
  · next oid htarget =>
    split
    · next tracker hmark =>
      rcases LawfulActionTracker.pending_killed hmark with ⟨hgone, hless⟩
      refine h.setRequest hr hless rfl rfl ?_
      intro n t _ _ hcovers _ _ hp
      rw [htarget] at hcovers
      rw [Pending, covers_kill hcovers, hgone] at hp
      cases hp
    · next hmark =>
      refine h.setRequest hr (fun _ _ hp => hp) rfl rfl ?_
      intro n t _ _ hcovers _ _ hp
      rw [htarget] at hcovers
      rw [Pending, covers_kill hcovers, LawfulActionTracker.killed_failed hmark] at hp
      cases hp
  · next u htarget =>
    split
    · next tracker hmark =>
      rcases LawfulActionTracker.pending_terminated hmark with ⟨⟨oid, hwas⟩, hgone, hless⟩
      refine h.setRequest hr hless rfl rfl ?_
      intro n t _ ht hcovers _ _
      rw [htarget] at hcovers
      by_cases hlive : t.Live
      · rcases h.tracked hwas with ⟨m, v, hv, _, huuid, hwaiting⟩
        have heq : m = n :=
          h.unique hv ht ⟨huuid, hwaiting.live⟩ ⟨covers_terminate hcovers, hlive⟩
        rw [heq, ht] at hv
        cases hv
        refine Or.inl ⟨hwaiting, ?_⟩
        intro hp
        rw [Pending, covers_terminate hcovers, hgone] at hp
        cases hp
      · exact OpenerAction.settled_of_not_live hlive
    · next hmark =>
      refine h.setRequest hr (fun _ _ hp => hp) rfl rfl ?_
      intro n t _ _ hcovers _ _ hp
      rw [htarget] at hcovers
      rw [Pending, covers_terminate hcovers, LawfulActionTracker.terminated_failed hmark] at hp
      cases hp

/-- When a kill looks into the table of active openers, an accepted action of the opener is
neither between the tracker and the table nor gone from it with its sequence under way; the
sequence is in the table of the core when the core gets the request; and no action comes with the
UUID of an action that is live. -/
def Admits (s : Openers T) : OpenerEvent -> Prop
  | .action _ v => forall t, t ∈ s.actions -> t.uuid = v -> ¬ t.Live
  | .look r => forall req, s.requests[r]? = some req -> notFoundReply req.target = true ->
      forall n, n ∈ req.covered -> forall t, s.actions[n]? = some t -> ¬ t.Unlisted
  | .terminateSeq r => forall req, s.requests[r]? = some req ->
      notFoundReply req.target = true -> forall k, req.stage = .calling k -> k ∈ req.covered ->
        forall t, s.actions[k]? = some t -> ¬ t.Starting
  | _ => True

lemma Sound.lookup_active (hn : s.actions[n]? = some t) (hactive : t.Active)
    (hcovers : target.covers t = true) : s.lookup target = some n := by
  cases target with
  | kill oid =>
    rw [← covers_kill hcovers]
    exact (h.active hn hactive).left
  | terminate u =>
    rw [← covers_terminate hcovers]
    exact (h.active hn hactive).right

/-- A terminate does not find another active opener than the one it is for. -/
theorem Sound.dead_of_unlisted (hn : s.actions[n]? = some t) (hunlisted : t.Unlisted)
    (hk : s.byActionUuid.lookup t.uuid = some k) : s.DeadAt k := by
  rcases h.named hk with ⟨u, hu, huuid, hstate⟩
  cases hstate with
  | inr hdead => exact ⟨u, hu, hdead⟩
  | inl hactive =>
    have hlive : t.Live := by
      rcases hunlisted with hstage | hrun
      · simp [Live, hstage]
      · exact hrun.right.live
    have heq : k = n := h.unique hu hn ⟨huuid, hactive.live⟩ ⟨rfl, hlive⟩
    rw [heq, hn] at hu
    cases hu
    rcases hunlisted with hstage | hrun
    · simp [Active, hstage] at hactive
    · exact absurd hactive hrun.left

lemma Sound.look (hadmits : s.Admits (.look r)) (hstep : step queues s (.look r) = some s') :
    s'.Sound := by
  rcases Option.bind_eq_some_iff.mp hstep with ⟨req, hr, hstep⟩
  rcases of_guard hstep with ⟨hmarked, rfl⟩
  refine h.setRequest hr (fun _ _ hp => hp) rfl rfl ?_
  intro n t hn ht hcovers hmeets
  unfold Meets at hmeets
  rw [hmarked] at hmeets
  unfold lookStage
  split
  · next k hk =>
    show t.Settled (s.Pending t) ∨ (n = k ∧ (t.Active ∨ t.UnderWay)) ∨ _
    rcases stage_cases with hwaiting | hunlisted | hactive | hlive
    · exact Or.inl (Or.inl ⟨hwaiting, hmeets hwaiting⟩)
    · right
      right
      cases htarget : req.target with
      | kill oid => exact absurd hunlisted (hadmits req hr (by rw [htarget]; rfl) n hn t ht)
      | terminate u =>
        rw [htarget] at hcovers hk
        refine ⟨rfl, h.dead_of_unlisted ht hunlisted ?_⟩
        rw [covers_terminate hcovers]
        exact hk
    · rw [h.lookup_active ht hactive hcovers] at hk
      injection hk with hk
      exact Or.inr (Or.inl ⟨hk, Or.inl hactive⟩)
    · exact Or.inl (OpenerAction.settled_of_not_live hlive)
  · next hnone =>
    show notFoundReply req.target = true -> t.Settled (s.Pending t)
    intro hkill
    rcases stage_cases with hwaiting | hunlisted | hactive | hlive
    · exact Or.inl ⟨hwaiting, hmeets hwaiting⟩
    · exact absurd hunlisted (hadmits req hr hkill n hn t ht)
    · rw [h.lookup_active ht hactive hcovers] at hnone
      cases hnone
    · exact OpenerAction.settled_of_not_live hlive

lemma Sound.unknown (hr : s.requests[r]? = some req) (hcalling : req.stage = .calling k)
    (hunknown : notFoundReply req.target = true -> k ∈ req.covered ->
      forall t, s.actions[k]? = some t -> t.Active ∨ t.UnderWay -> t.Settled (s.Pending t)) :
    (s.setRequest r { req with stage := .returned (notFoundReply req.target) }).Sound := by
  refine h.setRequest hr (fun _ _ hp => hp) rfl rfl ?_
  intro n t hn ht _ hmeets
  unfold Meets at hmeets
  rw [hcalling] at hmeets
  show notFoundReply req.target = true -> t.Settled (s.Pending t)
  intro hkill
  rcases hmeets with hdone | ⟨hk, hactive⟩ | ⟨hreply, _⟩
  · exact hdone
  · rw [hk] at hn ht
    exact hunknown hkill hn t ht hactive
  · rw [hkill] at hreply
    cases hreply

lemma Sound.terminate (hadmits : s.Admits (.terminateSeq r))
    (hstep : step queues s (.terminateSeq r) = some s') : s'.Sound := by
  rcases Option.bind_eq_some_iff.mp hstep with ⟨req, hr, hstep⟩
  split at hstep
  · next k hcalling =>
    cases hstep
    unfold terminateStep
    split
    · next hnone =>
      apply h.unknown hr hcalling
      intro _ _ t ht
      rw [hnone] at ht
      cases ht
    · next t ht =>
      have hcons := h.consistent t (List.mem_of_getElem? ht)
      split
      · next t' hterm =>
        rcases OpenerAction.terminateSeq_goes hcons hterm with ⟨hgoes, hover⟩
        have hself : (s.setAction k t').actions[k]? = some t' := by
          show (s.actions.set k t')[k]? = some t'
          rw [getElem?_set_if ht, if_pos rfl]
        refine (h.progress ht hgoes).setRequest hr (fun _ _ hp => hp) rfl rfl ?_
        intro n u _ hu _ hmeets _
        unfold Meets at hmeets
        rw [hcalling] at hmeets
        rcases hmeets with hdone | ⟨hk, _⟩ | ⟨_, v, hv, hdead⟩
        · exact hdone
        · rw [hk, hself] at hu
          cases hu
          exact OpenerAction.settled_of_over hover
        · rw [hself] at hv
          cases hv
          exact absurd hdead.right hover.ne_absent
      · next hterm =>
        apply h.unknown hr hcalling
        intro hkill hk u hu hactive
        have hstarting := hadmits req hr hkill k hcalling hk u hu
        rw [ht] at hu
        cases hu
        exact hcons.settled_of_unknown hactive hstarting hterm
  · cases hstep

lemma Sound.requestFailed (hstep : step queues s (.requestFailed r) = some s') : s'.Sound := by
  rcases Option.bind_eq_some_iff.mp hstep with ⟨req, hr, hstep⟩
  split at hstep
  · cases hstep
    refine h.setRequest hr (fun _ _ hp => hp) rfl rfl ?_
    intro n t _ _ _ _ hok
    cases hok
  · cases hstep

/-!
## Whole runs
-/

lemma Sound.action [LawfulActionTracker T] {oid : OID} (hadmits : s.Admits (.action oid v))
    (hstep : step queues s (.action oid v) = some s') : s'.Sound := by
  simp only [step] at hstep
  split at hstep
  · split at hstep
    · next tracker htracker =>
      cases hstep
      exact h.append htracker rfl rfl rfl hadmits
    · cases hstep
      exact h
  · cases hstep
    exact h

lemma Sound.step [LawfulActionTracker T] (hadmits : s.Admits e)
    (hstep : step queues s e = some s') : s'.Sound := by
  cases e with
  | action oid v => exact h.action hadmits hstep
  | enqueue n => exact h.enqueue hstep
  | enqueueFailed n => exact h.enqueueFailed hstep
  | acceptFailed n => exact h.acceptFailed hstep
  | dequeue n => exact h.dequeue hstep
  | take n => exact h.take hstep
  | register n => exact h.register hstep
  | unregister n => exact h.unregister hstep
  | progress n e =>
    rcases Option.bind_eq_some_iff.mp hstep with ⟨t, hn, hstep⟩
    rcases Option.map_eq_some_iff.mp hstep with ⟨t', ht', hs'⟩
    rw [← hs']
    have hcons := h.consistent t (List.mem_of_getElem? hn)
    exact h.progress hn (OpenerAction.goes_of_step hcons ht')
  | request target => exact h.request hstep
  | mark r => exact h.mark hstep
  | look r => exact h.look hadmits hstep
  | terminateSeq r => exact h.terminate hadmits hstep
  | requestFailed r => exact h.requestFailed hstep

/-- Every request that has returned `Ok` has settled the actions it covers. -/
def Effective (s : Openers T) : Prop :=
  forall req, req ∈ s.requests -> req.stage = .returned true -> forall n, n ∈ req.covered ->
    exists t : OpenerAction, s.actions[n]? = some t ∧ t.Settled (s.Pending t)

lemma Sound.effective : s.Effective := by
  intro req hreq hreturned n hn
  rcases h.requests req hreq n hn with ⟨t, ht, _, hmeets⟩
  unfold Meets at hmeets
  rw [hreturned] at hmeets
  exact ⟨t, ht, hmeets rfl⟩

end

/-- In every run in which kills look at the tables while no accepted action of the opener is
between them, requests that return `Ok` are effective. -/
theorem stop_requests_effective [LawfulActionTracker T] {queues : List OID} {s : Openers T}
    (hrun : (step queues).Reaches Admits new s) : s.Effective :=
  (hrun.invariant new_sound fun h hadmits hstep => h.step hadmits hstep).effective

end Openers

/-!
## A list as a tracker
-/

instance listTracker : ActionTracker (List (OID × ActionUuid)) where
  empty := []
  isPending t oid v := decide ((oid, v) ∈ t)
  append t oid v := some ((oid, v) :: t)
  remove t oid v := some (t.filter (· ≠ (oid, v)), decide ((oid, v) ∈ t))
  markTerminated t v :=
    if (t.any fun a => a.2 = v) then some (t.filter fun a => a.2 ≠ v) else none
  markKilled t oid := some (t.filter fun a => a.1 ≠ oid)

lemma mem_of_pending_filter {t : List (OID × ActionUuid)} {p : OID × ActionUuid -> Bool} (oid : OID)
    (v : ActionUuid) (h : isPending (t.filter p) oid v = true) : isPending t oid v = true :=
  decide_eq_true (List.mem_of_mem_filter (of_decide_eq_true h))

instance listTracker_lawful : LawfulActionTracker (List (OID × ActionUuid)) where
  pending_empty oid v := rfl
  pending_append := by
    intro t t' oid v h oid' v' hp
    cases h
    have hmem := of_decide_eq_true hp
    rcases List.mem_cons.mp hmem with heq | hold
    · injection heq with hoid hv
      exact Or.inr ⟨hoid, hv⟩
    · exact Or.inl (decide_eq_true hold)
  pending_remove := by
    intro t t' oid v b h
    injection h with h
    injection h with ht' hb
    rw [← ht', ← hb]
    refine ⟨rfl, ?_, ?_⟩
    · simp [ActionTracker.isPending]
    · exact mem_of_pending_filter
  remove_failed := by
    intro t oid v h
    cases h
  pending_terminated := by
    intro t t' v h
    rcases of_guard h with ⟨hany, rfl⟩
    refine ⟨?_, ?_, ?_⟩
    · rcases List.any_eq_true.mp hany with ⟨a, ha, hv⟩
      refine ⟨a.1, decide_eq_true ?_⟩
      rw [← of_decide_eq_true hv]
      exact ha
    · intro oid
      simp [ActionTracker.isPending]
    · exact mem_of_pending_filter
  terminated_failed := by
    intro t v h oid
    apply decide_eq_false
    intro hmem
    have hany : (t.any fun a => a.2 = v) = true :=
      List.any_eq_true.mpr ⟨(oid, v), hmem, decide_eq_true rfl⟩
    simp only [ActionTracker.markTerminated, if_pos hany] at h
    cases h
  pending_killed := by
    intro t t' oid h
    cases h
    refine ⟨?_, ?_⟩
    · intro v
      simp [ActionTracker.isPending]
    · exact mem_of_pending_filter
  killed_failed := by
    intro t oid h
    cases h

namespace Openers

def checkAdmits {T : Type} (s : Openers T) : OpenerEvent -> Bool
  | .action _ v => s.actions.all fun t => t.uuid ≠ v || ¬ t.Live
  | .look r => s.requests[r]?.all fun req => ¬ notFoundReply req.target ||
      req.covered.all fun n => s.actions[n]?.all fun t => ¬ t.Unlisted
  | .terminateSeq r => s.requests[r]?.all fun req => ¬ notFoundReply req.target ||
      match req.stage with
      | .calling k => k ∉ req.covered || s.actions[k]?.all fun t => ¬ t.Starting
      | _ => true
  | _ => true

lemma admits_of_check (s : Openers T) (e : OpenerEvent) (h : s.checkAdmits e = true) :
    s.Admits e := by
  cases e with
  | action oid v =>
    intro t ht huuid
    have hall := List.all_eq_true.mp h t ht
    simpa [huuid] using hall
  | look r =>
    intro req hr hkill n hn t ht
    have hall : forall n, n ∈ req.covered ->
        (s.actions[n]?.all fun t => ¬ t.Unlisted) = true := by
      simpa [checkAdmits, hr, hkill] using h
    simpa [ht] using hall n hn
  | terminateSeq r =>
    intro req hr hkill k hcalling hk t ht
    simpa [checkAdmits, hr, hkill, hcalling, hk, ht] using h
  | _ => trivial

def gate : OID :=
  ⟨.unit, "doors/gate"⟩

def firstRuns : List OpenerEvent :=
  [.action gate 1, .enqueue 0, .progress 0 .accept, .action gate 2, .enqueue 1,
    .progress 1 .accept, .dequeue 0, .take 0, .register 0, .progress 0 .call, .progress 0 .spawn,
    .progress 0 .list]

/-- A kill terminates the sequence of the action that runs, and the next one is cancelled. -/
theorem firstRuns_killed : exists s : Openers (List (OID × ActionUuid)),
      (step [gate]).runChecked checkAdmits (firstRuns ++
        [.request (.kill gate), .mark 0, .look 0, .terminateSeq 0, .progress 0 .answer,
          .unregister 0, .dequeue 1, .take 1]) new = some s ∧
      s.requests.map StopRequest.stage = [.returned true] ∧
      s.actions.map OpenerAction.run = [.aborted, .absent] ∧ s.Effective := by
  apply exists_of_any (p := fun s => decide (s.requests.map StopRequest.stage = [.returned true] ∧
    s.actions.map OpenerAction.run = [.aborted, .absent])) (by decide)
  intro s hs hlast
  rcases of_decide_eq_true hlast with ⟨hrequests, hruns⟩
  exact ⟨hrequests, hruns, stop_requests_effective (.of_runChecked admits_of_check .start hs)⟩

/-- A kill that comes while the plan is made finds the action neither on the tracker nor in the
table of active openers; one that comes before the core has entered the sequence in its table is
answered that there is none.  Both return `Ok`, and the sequence runs. -/
theorem kill_returns_and_sequence_runs : (exists s : Openers (List (OID × ActionUuid)),
      (step [gate]).runChecked (fun _ _ => true)
        [.action gate 1, .enqueue 0, .progress 0 .accept, .dequeue 0, .take 0,
          .request (.kill gate), .mark 0, .look 0, .register 0, .progress 0 .call,
          .progress 0 .spawn, .progress 0 .list] new = some s ∧
      s.requests = [⟨.kill gate, [0], .returned true⟩] ∧
      s.actions.map OpenerAction.run = [.running] ∧ ¬ s.Effective) ∧
    (exists s : Openers (List (OID × ActionUuid)), (step [gate]).runChecked (fun _ _ => true)
        [.action gate 1, .enqueue 0, .progress 0 .accept, .dequeue 0, .take 0, .register 0,
          .progress 0 .call, .request (.kill gate), .mark 0, .look 0, .terminateSeq 0,
          .progress 0 .spawn, .progress 0 .list] new = some s ∧
      s.requests = [⟨.kill gate, [0], .returned true⟩] ∧
      s.actions.map OpenerAction.run = [.running] ∧ ¬ s.Effective) := by
  have hruns : forall {s : Openers (List (OID × ActionUuid))},
      s.requests = [⟨.kill gate, [0], .returned true⟩] ->
      s.actions = [⟨gate, 1, .called, 0, some true, .running, .inside⟩] ->
        ¬ s.Effective := by
    intro s hrequests hactions heffective
    have hmem : ⟨.kill gate, [0], .returned true⟩ ∈ s.requests := by
      rw [hrequests]
      exact List.mem_singleton_self _
    rcases heffective _ hmem rfl 0 (List.mem_singleton_self 0) with ⟨t, ht, hsettled⟩
    rw [hactions] at ht
    cases ht
    simp [OpenerAction.Settled, OpenerAction.Waiting, OpenerAction.Dead, SeqRun.Over] at hsettled
  constructor
  · exact ⟨_, rfl, rfl, rfl, hruns rfl rfl⟩
  · exact ⟨_, rfl, rfl, rfl, hruns rfl rfl⟩

end Openers

end Eva4.ControllerLm

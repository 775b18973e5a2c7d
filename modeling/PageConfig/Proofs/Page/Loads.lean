import Mathlib.Algebra.Group.Nat.Defs
import Mathlib.Data.List.Induction
import Mathlib.Data.List.Nodup
import PageConfig.Proofs.Page.Intake

/-!
# Loads

A page awaits one load at most, the one begun last, and awaits it until its result comes in
or a document is given directly. What the loads of a page have been through is read off the
calls made so far.
-/

set_option autoImplicit false

namespace PageConfig

open Effect

variable {σ : Type}

inductive LoadEvent where
  | began (ticket : LoadTicket)
  | finished (ticket : LoadTicket) (answer : Except Panic Bool)
  | replaced

namespace LoadEvent

def ticket? : LoadEvent → Option LoadTicket
  | .began ticket => some ticket
  | _ => none

/-- The ticket whose result is taken. A call that answers anything but no has taken it, also
where the answer is a panic. -/
def accepted? : LoadEvent → Option LoadTicket
  | .finished _ (.ok false) => none
  | .finished ticket _ => some ticket
  | _ => none

/-- After any event but a refused result, the load awaited before is awaited no more. -/
def Supersedes : LoadEvent → Prop
  | .finished _ (.ok false) => False
  | _ => True

/-- The ticket was issued last, and its load is still to be finished. -/
def Awaits (log : List LoadEvent) (ticket : LoadTicket) : Prop :=
  ∃ earlier later, log = earlier ++ .began ticket :: later ∧ ∀ e ∈ later, ¬ e.Supersedes

def tickets (log : List LoadEvent) : List LoadTicket := log.filterMap ticket?

def accepted (log : List LoadEvent) : List LoadTicket := log.filterMap accepted?

theorem not_awaits_nil (ticket : LoadTicket) : ¬ Awaits [] ticket := by
  rintro ⟨earlier, later, hlog, -⟩
  cases List.nil_eq_append_iff.1 hlog |>.2

theorem awaits_concat (log : List LoadEvent) (e : LoadEvent) (ticket : LoadTicket) :
    Awaits (log ++ [e]) ticket ↔ e = .began ticket ∨ ¬ e.Supersedes ∧ Awaits log ticket := by
  constructor
  · rintro ⟨earlier, later, hlog, hlater⟩
    rcases List.eq_nil_or_concat later with rfl | ⟨later, e', rfl⟩
    · obtain ⟨-, he⟩ := List.append_inj' hlog rfl
      exact .inl (List.singleton_inj.1 he)
    · rw [List.concat_eq_append] at hlog hlater
      rw [← List.cons_append, ← List.append_assoc] at hlog
      obtain ⟨rfl, he⟩ := List.append_inj' hlog rfl
      obtain rfl := List.singleton_inj.1 he
      exact .inr ⟨hlater e (by simp), earlier, later, rfl, fun e' he' => hlater e' (by simp [he'])⟩
  · rintro (rfl | ⟨he, earlier, later, rfl, hlater⟩)
    · exact ⟨log, [], rfl, nofun⟩
    · refine ⟨earlier, later ++ [e], by simp, fun e' he' => ?_⟩
      rcases List.mem_append.1 he' with he' | he'
      · exact hlater e' he'
      · rw [List.mem_singleton.1 he']
        exact he

def next : Option LoadTicket × UInt64 → LoadEvent → Option LoadTicket × UInt64
  | (_, issued), .began ticket => (some ticket, issued + 1)
  | (pending, issued), .finished _ (.ok false) => (pending, issued)
  | (_, issued), _ => (none, issued)

theorem foldl_next_awaits (log : List LoadEvent) (ticket : LoadTicket) :
    (log.foldl next (none, 0)).1 = some ticket ↔ Awaits log ticket := by
  induction log using List.reverseRecOn with
  | nil => exact ⟨nofun, fun h => absurd h (not_awaits_nil ticket)⟩
  | append_singleton log e ih =>
    rw [List.foldl_append, awaits_concat, ← ih]
    match e with
    | .began t => simp [next, Supersedes]
    | .finished t (.ok false) => simp [next, Supersedes]
    | .finished t (.ok true) => simp [next, Supersedes]
    | .finished t (.error p) => simp [next, Supersedes]
    | .replaced => simp [next, Supersedes]

end LoadEvent

namespace Page

open LoadEvent

variable [Clock σ]

def loadEvents (q : Page σ) : Call σ → List LoadEvent
  | .beginLoad =>
    match (beginLoad.outcome q).1 with
    | .ok ticket => [.began ticket]
    | .error _ => []
  | .finishLoad ticket result => [.finished ticket ((finishLoad ticket result).outcome q).1]
  | .setDocument _ => [.replaced]
  | _ => []

inductive History : List LoadEvent → Page σ → Prop
  | start {p q : Page σ} (options : ControllerOptions σ) (context : Context)
    (initial : Option Value) (h : (Page.start options context initial).outcome p = (.ok (), q)) :
    History [] q
  | call {log : List LoadEvent} {q : Page σ} (c : Call σ) (h : History log q) :
    History (log ++ q.loadEvents c) (q.after c)
  | outside {log : List LoadEvent} {q : Page σ} (world : σ) (registry : Registry σ)
    (h : History log q) : History log { q with world, registry }

theorem reachable_iff_history (q : Page σ) : q.Reachable ↔ ∃ log, History log q := by
  constructor
  · intro h
    induction h with
    | start options context initial h => exact ⟨[], .start options context initial h⟩
    | call c _ _ ih =>
      obtain ⟨log, hlog⟩ := ih
      exact ⟨_, hlog.call c⟩
    | outside world registry _ ih =>
      obtain ⟨log, hlog⟩ := ih
      exact ⟨log, hlog.outside world registry⟩
  · rintro ⟨log, h⟩
    induction h with
    | start options context initial h => exact .start options context initial h
    | call c _ ih => exact ih.call c trivial
    | outside world registry _ ih => exact ih.outside world registry

def loads (q : Page σ) : Option LoadTicket × UInt64 := (q.controller.pending, q.controller.issued)

omit [Clock σ] in
theorem loads_invariant (loads : Option LoadTicket × UInt64) :
    Controller.Invariant fun c : Controller σ => (c.pending, c.issued) = loads :=
  Controller.untouched_invariant fun _ _ pending issued => (pending, issued) = loads

theorem intake_loads (given : Except PageError Value) (q : Page σ) :
    ((intake given).outcome q).2.loads = q.loads := by
  rw [intake_outcome]
  rcases (q.controller.tell (q.controller.read given)).outcome q.world with ⟨panic | _, world⟩
  · rfl
  · rcases q.controller.read given with e | ⟨held, findings⟩ <;> rfl

/-- The result of the load that is awaited is accepted, and only the callback that is told of
it can keep the call from saying so. -/
theorem finishLoad_accepts {q : Page σ} {ticket : LoadTicket}
    (h : q.controller.pending = some ticket) (result : Except PageError Value) :
    ((finishLoad ticket result).outcome q).1 =
        ((q.controller.tell (q.controller.read result)).outcome q.world).1.map (fun _ => true) ∧
      ((finishLoad ticket result).outcome q).2.loads = (none, q.controller.issued) := by
  obtain ⟨input, hfinish⟩ := finishLoad_awaited h result
  have hanswer : ((intake result).outcome (q.noting none input)).1 =
    ((q.controller.tell (q.controller.read result)).outcome q.world).1 := intake_answer result _
  have hloads : ((intake result).outcome (q.noting none input)).2.loads =
    (none, q.controller.issued) := intake_loads result _
  rw [hfinish, ← hanswer, ← hloads, outcome_bind]
  rcases (intake result).outcome (q.noting none input) with ⟨panic | _, q'⟩ <;> exact ⟨rfl, rfl⟩

theorem finishLoad_loads (q : Page σ) (ticket : LoadTicket) (result : Except PageError Value) :
    ((finishLoad ticket result).outcome q).2.loads =
      next q.loads (.finished ticket ((finishLoad ticket result).outcome q).1) := by
  by_cases h : q.controller.pending = some ticket
  · obtain ⟨hanswer, hloads⟩ := finishLoad_accepts h result
    rw [hanswer, hloads]
    rcases ((q.controller.tell (q.controller.read result)).outcome q.world).1 with panic | _ <;> rfl
  · rw [finishLoad_stale h]
    rfl

theorem after_loads (q : Page σ) (c : Call σ) :
    (q.after c).loads = (q.loadEvents c).foldl next q.loads := by
  have hkeeps := loads_invariant (σ := σ) q.loads
  cases c with
  | setDocument raw =>
    have hnone := loads_invariant (σ := σ) (none, q.controller.issued)
    exact (hnone.process raw (q.noting none q.controller.input) rfl).1
  | beginLoad => rfl
  | finishLoad ticket result => exact finishLoad_loads q ticket result
  | revalidate => exact (hkeeps.revalidate q rfl).1
  | optimize => exact (hkeeps.optimize q rfl).1
  | retry => exact (hkeeps.retry q rfl).1
  | recordMetric m => exact (hkeeps.recordMetric m q rfl).1
  | render => exact (hkeeps.render q rfl).1
  | retryNode id => exact (hkeeps.retryNode id q rfl).1
  | updateContext update => rfl
  | resize width height => rfl
  | setHost host => rfl

theorem next_finished_issued (loads : Option LoadTicket × UInt64) (ticket : LoadTicket)
    (answer : Except Panic Bool) : (next loads (.finished ticket answer)).2 = loads.2 := by
  rcases answer with panic | _ | _ <;> rfl

theorem after_tickets (q : Page σ) (c : Call σ) :
    tickets (q.loadEvents c) = [] ∧ (q.after c).controller.issued = q.controller.issued ∨
    tickets (q.loadEvents c) = [⟨q.controller.issued + 1⟩] ∧
      (q.after c).controller.issued = q.controller.issued + 1 := by
  have hissued := congrArg Prod.snd (after_loads q c)
  cases c with
  | beginLoad => exact .inr ⟨rfl, rfl⟩
  | finishLoad ticket result => exact .inl ⟨rfl, hissued.trans (next_finished_issued _ _ _)⟩
  | _ => exact .inl ⟨rfl, hissued⟩

theorem finishLoad_accepted (q : Page σ) (ticket : LoadTicket) (result : Except PageError Value) :
    accepted [.finished ticket ((finishLoad ticket result).outcome q).1] ++
      ((finishLoad ticket result).outcome q).2.controller.pending.toList =
        q.controller.pending.toList := by
  by_cases h : q.controller.pending = some ticket
  · obtain ⟨hanswer, hloads⟩ := finishLoad_accepts h result
    have hnone : ((finishLoad ticket result).outcome q).2.controller.pending = none :=
      congrArg Prod.fst hloads
    rw [hanswer, hnone, h]
    rcases ((q.controller.tell (q.controller.read result)).outcome q.world).1 with panic | _ <;> rfl
  · rw [finishLoad_stale h]
    rfl

theorem after_accepted (q : Page σ) (c : Call σ) :
    (accepted (q.loadEvents c) ++ (q.after c).controller.pending.toList).Sublist
      (q.controller.pending.toList ++ tickets (q.loadEvents c)) := by
  have hpending : (q.after c).controller.pending = ((q.loadEvents c).foldl next q.loads).1 :=
    congrArg Prod.fst (after_loads q c)
  cases c with
  | setDocument raw =>
    rw [hpending]
    exact List.nil_sublist _
  | beginLoad => exact List.sublist_append_right _ _
  | finishLoad ticket result =>
    have haccepted := finishLoad_accepted q ticket result
    exact haccepted ▸ List.sublist_append_left _ _
  | _ =>
    rw [hpending]
    exact List.sublist_append_left _ _

namespace History

variable {log : List LoadEvent} {q : Page σ}

theorem loads_eq (h : History log q) : q.loads = log.foldl next (none, 0) := by
  induction h with
  | @start p q options context initial h =>
    have hempty := loads_invariant (σ := σ) (none, 0)
    have hprocess := hempty.process initial { p with controller := .empty options context } rfl
    rw [← outcome_start, h] at hprocess
    exact hprocess.1
  | call c _ ih => rw [after_loads, ih, List.foldl_append]
  | outside _ _ _ ih => exact ih

theorem pending_iff (h : History log q) (ticket : LoadTicket) :
    q.controller.pending = some ticket ↔ Awaits log ticket := by
  rw [← foldl_next_awaits, ← h.loads_eq]
  rfl

theorem tickets_eq (h : History log q) :
    tickets log = (List.range (tickets log).length).map (fun k => ⟨UInt64.ofNat (k + 1)⟩) ∧
      q.controller.issued = UInt64.ofNat (tickets log).length := by
  induction h with
  | start options context initial h =>
    exact ⟨rfl, congrArg Prod.snd (History.start options context initial h).loads_eq⟩
  | @call log q c _ ih =>
    obtain ⟨hnumbers, hissued⟩ := ih
    have hconcat : tickets (log ++ q.loadEvents c) = tickets log ++ tickets (q.loadEvents c) :=
      List.filterMap_append
    rcases after_tickets q c with ⟨hnone, hsame⟩ | ⟨hone, hnext⟩
    · rw [hconcat, hnone, hsame, List.append_nil]
      exact ⟨hnumbers, hissued⟩
    · rw [hconcat, hone, hnext, List.length_append, List.length_singleton, List.range_succ,
        List.map_append, ← hnumbers, hissued, List.map_singleton, UInt64.ofNat_add]
      exact ⟨rfl, rfl⟩
  | outside _ _ _ ih => exact ih

theorem tickets_nodup (h : History log q) (hcount : (tickets log).length < 2 ^ 64) :
    (tickets log).Nodup := by
  rw [h.tickets_eq.1]
  refine List.Nodup.map_on (fun i hi j hj hij => ?_) List.nodup_range
  have hi := List.mem_range.1 hi
  have hj := List.mem_range.1 hj
  have hnumber := congrArg (fun t => t.number.toNat) hij
  simp only [UInt64.toNat_ofNat'] at hnumber
  rw [Nat.mod_eq_of_lt (by omega), Nat.mod_eq_of_lt (by omega)] at hnumber
  omega

theorem accepted_sublist (h : History log q) :
    (accepted log ++ q.controller.pending.toList).Sublist (tickets log) := by
  induction h with
  | @start p q options context initial h =>
    have hnone : q.controller.pending = none :=
      congrArg Prod.fst (History.start options context initial h).loads_eq
    rw [hnone]
    exact List.nil_sublist _
  | @call log q c _ ih =>
    have hstep := (List.Sublist.refl (accepted log)).append (after_accepted q c)
    rw [← List.append_assoc, ← List.append_assoc] at hstep
    have hconcat := hstep.trans (ih.append (List.Sublist.refl (tickets (q.loadEvents c))))
    unfold accepted tickets at hconcat ⊢
    rw [List.filterMap_append, List.filterMap_append]
    exact hconcat
  | outside _ _ _ ih => exact ih

end History

/-- Of all loads the one begun last wins, whatever is called in between: its result is
accepted, once, and every other result is refused and changes nothing. Only the callback that
is told of an accepted result can keep the call from returning. -/
theorem latest_load_wins {log : List LoadEvent} {q : Page σ} (h : History log q) :
    (q.controller.isLoading ↔ ∃ ticket, Awaits log ticket) ∧
    (∀ ticket result, ((finishLoad ticket result).outcome q).1 = .ok true ↔
      Awaits log ticket ∧
        (q.controller.tell (q.controller.read result)).Yields q.world fun _ _ => True) ∧
    (∀ ticket result panic, ((finishLoad ticket result).outcome q).1 = .error panic ↔
      Awaits log ticket ∧
        ((q.controller.tell (q.controller.read result)).outcome q.world).1 = .error panic) ∧
    (∀ ticket result, ¬ Awaits log ticket → (finishLoad ticket result).outcome q = (.ok false, q)) ∧
    ((tickets log).length < 2 ^ 64 → (accepted log).Nodup) := by
  have hstale (ticket : LoadTicket) (result : Except PageError Value)
      (hawaits : ¬ Awaits log ticket) : (finishLoad ticket result).outcome q = (.ok false, q) :=
    finishLoad_stale (mt (h.pending_iff ticket).1 hawaits) result
  refine ⟨?_, fun ticket result => ?_, fun ticket result panic => ?_, hstale, fun hcount => ?_⟩
  · rw [Controller.isLoading, Option.isSome_iff_exists]
    exact exists_congr h.pending_iff
  · by_cases hawaits : Awaits log ticket
    · rw [(finishLoad_accepts ((h.pending_iff ticket).2 hawaits) result).1, Effect.Yields]
      rcases (q.controller.tell (q.controller.read result)).outcome q.world with ⟨panic | _, world⟩
      · exact ⟨nofun, fun ⟨_, _, _, htold, _⟩ => nomatch htold⟩
      · exact ⟨fun _ => ⟨hawaits, (), world, rfl, trivial⟩, fun _ => rfl⟩
    · rw [hstale ticket result hawaits]
      exact ⟨nofun, fun htold => absurd htold.1 hawaits⟩
  · by_cases hawaits : Awaits log ticket
    · rw [(finishLoad_accepts ((h.pending_iff ticket).2 hawaits) result).1]
      rcases ((q.controller.tell (q.controller.read result)).outcome q.world).1 with p | _
      · exact ⟨fun hpanic => ⟨hawaits, congrArg _ (Except.error.inj hpanic)⟩,
          fun hpanic => congrArg _ (Except.error.inj hpanic.2)⟩
      · exact ⟨nofun, fun hpanic => nomatch hpanic.2⟩
    · rw [hstale ticket result hawaits]
      exact ⟨nofun, fun hpanic => absurd hpanic.1 hawaits⟩
  · exact ((List.sublist_append_left _ _).trans h.accepted_sublist).nodup (h.tickets_nodup hcount)

def untouchedPage (onError : Option (Failure → Effect Unit Unit)) : Page Unit where
  world := ()
  registry := ∅
  controller := .empty { onError } {}

theorem untouchedPage_history (onError : Option (Failure → Effect Unit Unit)) :
    History [] (untouchedPage onError) :=
  .start (p := untouchedPage onError) { onError } {} none rfl

theorem untouchedPage_second_load_wins : ∃ q : Page Unit,
    History [.began ⟨1⟩, .began ⟨2⟩] q ∧
    (finishLoad ⟨1⟩ (.error (.internal "timeout"))).outcome q = (.ok false, q) ∧
    ((finishLoad ⟨2⟩ (.error (.internal "timeout"))).outcome q).1 = .ok true := by
  have hhistory : History [.began ⟨1⟩, .began ⟨2⟩]
      (((untouchedPage none).after .beginLoad).after .beginLoad) :=
    ((untouchedPage_history none).call .beginLoad).call .beginLoad
  obtain ⟨-, htrue, -, hfalse, -⟩ := latest_load_wins hhistory
  refine ⟨_, hhistory, hfalse ⟨1⟩ _ ?_, (htrue ⟨2⟩ _).2 ⟨⟨[.began ⟨1⟩], [], rfl, nofun⟩, ?_⟩⟩
  · rw [← hhistory.pending_iff]
    decide
  · exact yields_pure trivial

theorem awaited_load_not_always_answered : ¬ ∀ (log : List LoadEvent) (q : Page Unit),
    History log q → ∀ ticket result,
      ((finishLoad ticket result).outcome q).1 = .ok true ↔ Awaits log ticket := by
  intro h
  have hhistory : History [.began ⟨1⟩]
      ((untouchedPage (some fun _ => throw ⟨some "reporter down"⟩)).after .beginLoad) :=
    (untouchedPage_history _).call .beginLoad
  have hanswer := (h _ _ hhistory ⟨1⟩ (.error (.internal "timeout"))).2 ⟨[], [], rfl, nofun⟩
  cases hanswer

end Page

end PageConfig

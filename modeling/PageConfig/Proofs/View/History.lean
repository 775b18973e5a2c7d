import Mathlib.Algebra.Group.Nat.Defs
import Mathlib.Data.List.DropRight
import PageConfig.Proofs.Value.Table
import PageConfig.Proofs.View.Visits

/-!
# The history of a renderer

What a renderer remembers of an id is told by what has happened so far: the attempts to
make the component of a node with the id, the retries of the id, and the resets. A visit
is one event, so the invariant of a visit carries over passes, and from these over runs.
-/

set_option autoImplicit false

namespace PageConfig

open Effect

variable {σ : Type}

inductive Event where
  | visit (v : Visit)
  | retry (id : String)
  | reset

namespace Event

def isAttempt (id : String) : Event → Bool
  | visit v => v.metric?.isSome && v.node.id == id
  | _ => false

def isRetry (id : String) : Event → Bool
  | retry other => other == id
  | _ => false

def isReset : Event → Bool
  | reset => true
  | _ => false

def isAbout (id : String) (e : Event) : Bool := e.isAttempt id || e.isRetry id || e.isReset

def failure? : Event → Option String
  | visit (.failed _ _ message _) => some message
  | _ => none

end Event

abbrev History := List Event

namespace History

/-- The message of the last event about the id, if that event is a failed attempt. -/
def standing (log : History) (id : String) : Option String :=
  (log.filter (·.isAbout id)).getLast?.bind Event.failure?

def sinceReset (log : History) : History := log.rtakeWhile fun e => !e.isReset

def attempts (log : History) (id : String) : Nat := log.countP (·.isAttempt id)

def retries (log : History) (id : String) : Nat := log.countP (·.isRetry id)

variable (log : History) (e : Event) (id : String)

theorem standing_concat : standing (log ++ [e]) id =
    if e.isAbout id then e.failure? else log.standing id := by
  rw [standing, List.filter_append]
  by_cases he : e.isAbout id
  · rw [List.filter_cons_of_pos he, List.filter_nil, List.getLast?_concat, if_pos he]
    rfl
  · rw [List.filter_cons_of_neg he, List.filter_nil, List.append_nil, if_neg he]
    rfl

theorem sinceReset_concat {e : Event} (he : e.isReset = false) :
    sinceReset (log ++ [e]) = log.sinceReset ++ [e] :=
  List.rtakeWhile_concat_pos _ _ _ (by rw [he]; rfl)

theorem sinceReset_reset : sinceReset (log ++ [.reset]) = [] :=
  List.rtakeWhile_concat_neg _ _ _ Bool.false_ne_true

theorem attempts_concat : attempts (log ++ [e]) id =
    log.attempts id + if e.isAttempt id then 1 else 0 := by
  rw [attempts, List.countP_append, List.countP_singleton]
  rfl

theorem retries_concat : retries (log ++ [e]) id =
    log.retries id + if e.isRetry id then 1 else 0 := by
  rw [retries, List.countP_append, List.countP_singleton]
  rfl

theorem sinceReset_sublist : log.sinceReset.Sublist log := (List.rtakeWhile_suffix _ _).sublist

end History

namespace Renderer

@[simp] theorem get?_failures_counted (r : Renderer σ) (id other : String) :
    (r.counted id).failures.get? other = r.failures.get? other := rfl

theorem updateCount_counted (r : Renderer σ) (id other : String) :
    (r.counted id).updateCount other =
      if id = other then r.updateCount id + 1 else r.updateCount other := by
  rw [updateCount, counted, Dictionary.get?_insert]
  split <;> rfl

theorem retryCount_retrying (r : Renderer σ) (id other : String) :
    (r.retrying id).retryCount other =
      if id = other then r.retryCount id + 1 else r.retryCount other := by
  rw [retryCount, retrying, Dictionary.get?_insert]
  split <;> rfl

/-- The renderer remembers what the history tells. The counts are kept in 32 bits. -/
structure Remembers (r : Renderer σ) (log : History) : Prop where
  failures : ∀ id, r.failures.get? id = log.standing id
  retries : ∀ id, r.retryCount id = UInt32.ofNat (log.sinceReset.retries id)
  updates : ∀ id, r.updateCount id = UInt32.ofNat (log.sinceReset.attempts id)

namespace Remembers

open History

variable {r : Renderer σ} {log : History}

theorem new (options : RenderOptions σ) : Remembers { options } [] where
  failures _ := rfl
  retries _ := rfl
  updates _ := rfl

theorem unconcerned (h : r.Remembers log) {e : Event} (he : ∀ id, e.isAbout id = false) :
    r.Remembers (log ++ [e]) := by
  have hnot (id : String) : e.isAttempt id = false ∧ e.isRetry id = false ∧ e.isReset = false := by
    simpa [Event.isAbout, and_assoc] using he id
  have hreset : e.isReset = false := (hnot "").2.2
  refine ⟨fun id => ?_, fun id => ?_, fun id => ?_⟩
  · rw [standing_concat, he id]
    exact h.failures id
  · rw [sinceReset_concat _ hreset, retries_concat, (hnot id).2.1]
    exact h.retries id
  · rw [sinceReset_concat _ hreset, attempts_concat, (hnot id).1]
    exact h.updates id

theorem attempted (h : r.Remembers log) (v : Visit) (hv : v.metric?.isSome) (id : String) :
    (r.counted v.node.id).updateCount id =
      UInt32.ofNat ((sinceReset (log ++ [.visit v])).attempts id) := by
  rw [updateCount_counted, sinceReset_concat _ rfl, attempts_concat]
  simp only [Event.isAttempt, hv, Bool.true_and, beq_iff_eq]
  split
  · rename_i hid
    subst hid
    rw [h.updates, UInt32.ofNat_add]
    rfl
  · exact h.updates id

theorem unretried (h : r.Remembers log) (v : Visit) (id : String) :
    r.retryCount id = UInt32.ofNat ((sinceReset (log ++ [.visit v])).retries id) := by
  rw [sinceReset_concat _ rfl, retries_concat]
  exact h.retries id

theorem visit (h : r.Remembers log) {v : Visit} (hv : v.Fits r) :
    (v.act r).Remembers (log ++ [.visit v]) := by
  cases v with
  | missing n => exact h.unconcerned fun _ => rfl
  | kept n block => exact h.unconcerned fun _ => rfl
  | made n metric =>
    refine ⟨fun id => ?_, h.unretried _, h.attempted (.made n metric) rfl⟩
    -- the attempt was made as nothing stood against it
    rw [standing_concat, Visit.act, get?_failures_counted, h.failures]
    split
    · rename_i hid
      have hid : n.id = id := by simpa [Event.isAbout, Event.isAttempt, Event.isRetry,
        Event.isReset, Visit.metric?, Visit.node] using hid
      rw [← hid, ← h.failures, hv.1]
      rfl
    · rfl
  | failed n metric message block =>
    refine ⟨fun id => ?_, h.unretried _, h.attempted (.failed n metric message block) rfl⟩
    rw [standing_concat, Visit.act, failing, Dictionary.get?_insert, get?_failures_counted,
      h.failures]
    simp [Event.isAbout, Event.isAttempt, Event.isRetry, Event.isReset, Visit.metric?, Visit.node,
      Event.failure?]

theorem retry (h : r.Remembers log) (id : String) :
    (r.retrying id).Remembers (log ++ [.retry id]) := by
  refine ⟨fun other => ?_, fun other => ?_, fun other => ?_⟩
  · rw [standing_concat, retrying, Dictionary.get?_erase, h.failures]
    simp [Event.isAbout, Event.isAttempt, Event.isRetry, Event.isReset, Event.failure?]
  · rw [retryCount_retrying, sinceReset_concat _ rfl, retries_concat]
    simp only [Event.isRetry, beq_iff_eq]
    split
    · rename_i hid
      subst hid
      rw [h.retries, UInt32.ofNat_add]
      rfl
    · exact h.retries other
  · rw [sinceReset_concat _ rfl, attempts_concat]
    exact h.updates other

theorem reset (r : Renderer σ) (log : History) : r.reset.Remembers (log ++ [.reset]) := by
  refine ⟨fun id => ?_, fun id => ?_, fun id => ?_⟩
  · rw [standing_concat, if_pos (by simp [Event.isAbout, Event.isReset])]
    rfl
  · rw [sinceReset_reset]
    rfl
  · rw [sinceReset_reset]
    rfl

theorem withOptions (h : r.Remembers log) (options : RenderOptions σ) :
    Remembers { r with options } log := ⟨h.failures, h.retries, h.updates⟩

theorem hasFailed_iff (h : r.Remembers log) (id : String) :
    r.hasFailed id ↔ (log.standing id).isSome := by
  rw [hasFailed, Dictionary.has, h.failures]

end Remembers

end Renderer

def History.VisitsAfter (log past : History) (v : Visit) : Prop := past ++ [.visit v] <+: log

/-- Every visit fits a renderer that remembers what came before it. -/
def History.Fits (σ : Type) (log : History) : Prop :=
  ∀ past v, log.VisitsAfter past v → ∃ r : Renderer σ, r.Remembers past ∧ v.Fits r

namespace History.Fits

theorem nil : History.Fits σ [] := by
  intro past v h
  simp [VisitsAfter] at h

theorem concat {log : History} (h : log.Fits σ) {e : Event}
    (he : ∀ v, e = .visit v → ∃ r : Renderer σ, r.Remembers log ∧ v.Fits r) :
    History.Fits σ (log ++ [e]) := by
  intro past v hpast
  rcases List.prefix_concat_iff.1 hpast with heq | hpast
  · obtain ⟨rfl, hv⟩ := List.append_inj' heq rfl
    exact he v (List.singleton_inj.1 hv).symm
  · exact h past v hpast

end History.Fits

namespace Renderer

theorem Remembers.visits {r : Renderer σ} {log : History} {vs : List Visit}
    (h : r.Remembers log) (hlog : log.Fits σ) (hvs : Visit.AllFit r vs) :
    (vs.foldl Visit.act r).Remembers (log ++ vs.map .visit) ∧
      History.Fits σ (log ++ vs.map .visit) := by
  induction vs generalizing r log with
  | nil =>
    rw [List.map_nil, List.append_nil]
    exact ⟨h, hlog⟩
  | cons v vs ih =>
    have hfits : History.Fits σ (log ++ [.visit v]) := by
      apply hlog.concat
      rintro w hw
      cases hw
      exact ⟨r, h, hvs.1⟩
    rw [List.map_cons, List.append_cons]
    exact ih (h.visit hvs.1) hfits hvs.2

inductive Act (σ : Type) where
  | render (world : σ) (registry : Registry σ) (d : Document) (c : Context)
  | retry (world : σ) (registry : Registry σ) (d : Document) (c : Context) (id : String)
  | setOptions (options : RenderOptions σ)
  | setHost (host : Host)
  | resize (width height : Nat)
  | reset

def Act.Calm : Act σ → Prop
  | .render _ registry _ _ | .retry _ registry _ _ _ => registry.Calm
  | .setOptions options => options.Calm
  | _ => True

variable [Clock σ]

def after (r : Renderer σ) : Act σ → Renderer σ
  | .render world registry d c =>
    ((Stage.render d c).outcome { world, registry, renderer := r }).2.renderer
  | .retry world registry d c id =>
    ((Stage.retry d c id).outcome { world, registry, renderer := r }).2.renderer
  | .setOptions options => r.setOptions options
  | .setHost host => r.setHost host
  | .resize width height => r.resize width height
  | .reset => r.reset

/-- The events of an act. Those of a pass are its visits, which make up the blocks and the
samples that it gives back. -/
inductive Records (r : Renderer σ) : Act σ → History → Prop
  | render {world : σ} {registry : Registry σ} {d : Document} {c : Context} {output : Output}
    {vs : List Visit} {q : Pass σ}
    (hrender : (Stage.render d c).outcome { world, registry, renderer := r } =
      (.ok output, q.toStage))
    (hvisits : Pass.Visits (.ofDocument d c r.options.host) { world, registry, renderer := r }
      (Pass.top d) vs output.blocks q)
    (hmetrics : output.metrics = q.metrics) :
    Records r (.render world registry d c) (vs.map .visit)
  | retry {world : σ} {registry : Registry σ} {d : Document} {c : Context} {id : String}
    {block : Option Block} {vs : List Visit} {q : Pass σ}
    (hretry : (Stage.retry d c id).outcome { world, registry, renderer := r } =
      (.ok block, q.toStage))
    (hvisits : Pass.Visits (.ofDocument d c r.options.host)
      { world, registry, renderer := r.retrying id } ((d.findNode? id).toList.map Node.arranged)
      vs block.toList q) :
    Records r (.retry world registry d c id) (.retry id :: vs.map .visit)
  | setOptions (options : RenderOptions σ) : Records r (.setOptions options) []
  | setHost (host : Host) : Records r (.setHost host) []
  | resize (width height : Nat) : Records r (.resize width height) []
  | reset : Records r .reset [.reset]

theorem exists_records {r : Renderer σ} (hcalm : r.options.Calm) {a : Act σ} (ha : a.Calm) :
    (∃ es, r.Records a es) ∧ (r.after a).options.Calm := by
  cases a with
  | render world registry d c =>
    obtain ⟨output, t, ht, vs, q, hvisits, -, hmetrics, rfl⟩ :=
      Stage.render_visits d c (s := { world, registry, renderer := r }) ⟨hcalm, ha⟩
    refine ⟨⟨_, .render ht hvisits hmetrics⟩, ?_⟩
    rw [after, ht]
    exact (hvisits.calm ⟨hcalm, ha⟩).options
  | retry world registry d c id =>
    obtain ⟨block, t, ht, vs, q, hvisits, rfl⟩ :=
      Stage.retry_visits d c id (s := { world, registry, renderer := r }) ⟨hcalm, ha⟩
    refine ⟨⟨_, .retry ht hvisits⟩, ?_⟩
    rw [after, ht]
    exact (hvisits.calm ⟨hcalm, ha⟩).options
  | setOptions options => exact ⟨⟨[], .setOptions options⟩, ha⟩
  | setHost host => exact ⟨⟨[], .setHost host⟩, hcalm.onError, hcalm.onMetric, hcalm.fallback⟩
  | resize width height =>
    exact ⟨⟨[], .resize width height⟩, hcalm.onError, hcalm.onMetric, hcalm.fallback⟩
  | reset => exact ⟨⟨_, .reset⟩, hcalm⟩

theorem Remembers.act {r : Renderer σ} {log es : History} {a : Act σ} (h : r.Remembers log)
    (hlog : log.Fits σ) (hcalm : r.options.Calm) (ha : a.Calm) (hes : r.Records a es) :
    (r.after a).Remembers (log ++ es) ∧ History.Fits σ (log ++ es) := by
  cases hes with
  | render hrender hvisits hmetrics =>
    obtain ⟨hfit, hq⟩ := hvisits.becomes ⟨hcalm, ha⟩
    rw [after, hrender, hq.renderer]
    exact h.visits hlog hfit
  | @retry world registry d c id block vs q hretry hvisits =>
    obtain ⟨hfit, hq⟩ := hvisits.becomes ⟨hcalm, ha⟩
    rw [after, hretry, hq.renderer, List.append_cons]
    exact (h.retry id).visits (hlog.concat nofun) hfit
  | setOptions options =>
    rw [List.append_nil]
    exact ⟨h.withOptions _, hlog⟩
  | setHost host =>
    rw [List.append_nil]
    exact ⟨h.withOptions _, hlog⟩
  | resize width height =>
    rw [List.append_nil]
    exact ⟨h.withOptions _, hlog⟩
  | reset => exact ⟨Remembers.reset r log, hlog.concat nofun⟩

inductive Recorded : Renderer σ → List (Act σ) → History → Prop
  | nil (r : Renderer σ) : Recorded r [] []
  | cons {r : Renderer σ} {a : Act σ} {es log : History} {acts : List (Act σ)}
    (hes : r.Records a es) (hlog : Recorded (r.after a) acts log) :
    Recorded r (a :: acts) (es ++ log)

theorem exists_recorded {r : Renderer σ} (hcalm : r.options.Calm) {acts : List (Act σ)}
    (hacts : ∀ a ∈ acts, a.Calm) : ∃ log, r.Recorded acts log := by
  induction acts generalizing r with
  | nil => exact ⟨[], .nil r⟩
  | cons a acts ih =>
    obtain ⟨ha, hacts⟩ := List.forall_mem_cons.1 hacts
    obtain ⟨⟨es, hes⟩, hcalm⟩ := exists_records hcalm ha
    obtain ⟨log, hlog⟩ := ih hcalm hacts
    exact ⟨es ++ log, .cons hes hlog⟩

theorem Remembers.run {r : Renderer σ} {past log : History} {acts : List (Act σ)}
    (h : r.Remembers past) (hpast : past.Fits σ) (hcalm : r.options.Calm)
    (hacts : ∀ a ∈ acts, a.Calm) (hlog : r.Recorded acts log) :
    (acts.foldl after r).Remembers (past ++ log) ∧ History.Fits σ (past ++ log) := by
  induction hlog generalizing past with
  | nil r =>
    rw [List.append_nil]
    exact ⟨h, hpast⟩
  | cons hes _ ih =>
    obtain ⟨ha, hacts⟩ := List.forall_mem_cons.1 hacts
    obtain ⟨hstep, hfits⟩ := h.act hpast hcalm ha hes
    rw [← List.append_assoc]
    exact ih hstep hfits (exists_records hcalm ha).2 hacts

end Renderer

namespace History

theorem toNat_retries {log : History} {id : String} (h : log.retries id < 2 ^ 32) :
    (UInt32.ofNat (log.sinceReset.retries id)).toNat = log.sinceReset.retries id := by
  rw [UInt32.toNat_ofNat']
  exact Nat.mod_eq_of_lt (Nat.lt_of_le_of_lt log.sinceReset_sublist.countP_le h)

variable {log past : History} {v : Visit}

/-- While a failure stands, a visit shows its message and makes no attempt. -/
theorem Fits.kept (h : log.Fits σ) (hv : log.VisitsAfter past v) {message : String}
    (hmessage : past.standing v.node.id = some message) :
    v = .missing v.node ∨ ∃ retries output,
      v = .kept v.node (.fallback v.node.id v.node.type message retries output) := by
  obtain ⟨r, hr, hfit⟩ := h past v hv
  rw [← hr.failures] at hmessage
  cases v with
  | missing n => exact .inl rfl
  | kept n block =>
    obtain ⟨other, output, hother, rfl⟩ := hfit
    obtain rfl := Option.some.inj (hother.symm.trans hmessage)
    exact .inr ⟨_, output, rfl⟩
  | made n metric => exact absurd (hfit.1.symm.trans hmessage) nofun
  | failed n metric message block => exact absurd (hfit.1.symm.trans hmessage) nofun

theorem Fits.retryCount (h : log.Fits σ) (hv : log.VisitsAfter past v)
    (hbound : log.retries v.node.id < 2 ^ 32) {b : Block} (hb : v.fallback? = some b) :
    ∃ error retries output, b = .fallback v.node.id v.node.type error retries output ∧
      retries.toNat = past.sinceReset.retries v.node.id := by
  obtain ⟨r, hr, hfit⟩ := h past v hv
  have hpast : past.retries v.node.id < 2 ^ 32 :=
    Nat.lt_of_le_of_lt ((List.prefix_append _ _).trans hv).sublist.countP_le hbound
  have hcount : (r.retryCount v.node.id).toNat = past.sinceReset.retries v.node.id := by
    rw [hr.retries, toNat_retries hpast]
  cases v with
  | missing n => cases hb
  | kept n block =>
    obtain ⟨message, output, -, rfl⟩ := hfit
    cases hb
    exact ⟨message, _, output, rfl, hcount⟩
  | made n metric => cases hb
  | failed n metric message block =>
    obtain ⟨-, -, output, rfl⟩ := hfit
    cases hb
    exact ⟨message, _, output, rfl, hcount⟩

theorem Fits.updateCount (h : log.Fits σ) (hv : log.VisitsAfter past v)
    (hbound : log.attempts v.node.id < 2 ^ 32) {metric : Metric}
    (hmetric : v.metric? = some metric) : metric.componentId = v.node.id ∧
      metric.updateCount.toNat = past.sinceReset.attempts v.node.id + 1 := by
  obtain ⟨r, hr, hfit⟩ := h past v hv
  have hattempts : past.attempts v.node.id + 1 ≤ log.attempts v.node.id := by
    have hle : attempts (past ++ [.visit v]) v.node.id ≤ log.attempts v.node.id :=
      List.Sublist.countP_le (List.IsPrefix.sublist hv)
    have hv : (Event.visit v).isAttempt v.node.id = true := by simp [Event.isAttempt, hmetric]
    rwa [attempts_concat, if_pos hv] at hle
  have hcount : (r.updateCount v.node.id + 1).toNat = past.sinceReset.attempts v.node.id + 1 := by
    rw [hr.updates]
    have hle : past.sinceReset.attempts v.node.id ≤ past.attempts v.node.id :=
      past.sinceReset_sublist.countP_le
    have hadd : UInt32.ofNat (past.sinceReset.attempts v.node.id) + 1 =
      UInt32.ofNat (past.sinceReset.attempts v.node.id + 1) := (UInt32.ofNat_add _ 1).symm
    rw [hadd, UInt32.toNat_ofNat']
    exact Nat.mod_eq_of_lt (by omega)
  cases v with
  | missing n => cases hmetric
  | kept n block => cases hmetric
  | made n sample =>
    obtain ⟨-, rfl⟩ := hfit
    cases hmetric
    exact ⟨rfl, hcount⟩
  | failed n sample message block =>
    obtain ⟨-, rfl, -⟩ := hfit
    cases hmetric
    exact ⟨rfl, hcount⟩

end History

namespace Renderer

section

variable [Clock σ]

def run (options : RenderOptions σ) (acts : List (Act σ)) : Renderer σ :=
  acts.foldl after { options }

/-- A new renderer after any acts: its events can be told, and they alone say which ids
have failed and how often each was retried and sampled. A visit that keeps a fallback is a
look-up and the fallback (`Pass.Visits.kept`): nothing is made of the node's own component,
no sample is taken and no failure is reported. -/
theorem run_history {options : RenderOptions σ} (hcalm : options.Calm) {acts : List (Act σ)}
    (hacts : ∀ a ∈ acts, a.Calm) :
    (∃ log, Recorded { options } acts log) ∧
      ∀ log, Recorded { options } acts log → ∀ id,
        ((run options acts).hasFailed id ↔ (log.standing id).isSome) ∧
        (∀ past v, log.VisitsAfter past v → v.node.id = id →
          ∀ message, past.standing id = some message → v = .missing v.node ∨
            ∃ retries output,
              v = .kept v.node (.fallback id v.node.type message retries output)) ∧
        (log.attempts id < 2 ^ 32 → log.retries id < 2 ^ 32 →
          ((run options acts).retryCount id).toNat = log.sinceReset.retries id ∧
          ∀ past v, log.VisitsAfter past v → v.node.id = id →
            (∀ b, v.fallback? = some b → ∃ error retries output,
              b = .fallback id v.node.type error retries output ∧
                retries.toNat = past.sinceReset.retries id) ∧
            ∀ metric, v.metric? = some metric → metric.componentId = id ∧
              metric.updateCount.toNat = past.sinceReset.attempts id + 1) := by
  refine ⟨exists_recorded hcalm hacts, fun log hlog id => ?_⟩
  obtain ⟨hend, hfits⟩ := (Remembers.new options).run .nil hcalm hacts hlog
  rw [List.nil_append] at hend hfits
  have hend : (run options acts).Remembers log := hend
  refine ⟨hend.hasFailed_iff id, ?_, fun hattempts hretries => ⟨?_, ?_⟩⟩
  · rintro past v hv rfl message hmessage
    exact hfits.kept hv hmessage
  · rw [hend.retries, History.toNat_retries hretries]
  · rintro past v hv rfl
    exact ⟨fun b hb => hfits.retryCount hv hretries hb,
      fun metric hmetric => hfits.updateCount hv hattempts hmetric⟩

end

def brokenRegistry : Registry Unit := { table := [("Chart", {
  displayName := "Chart"
  defaults := []
  source := .ready fun _ => return .error (.failed "no data") })] }

def chart : Node := { id := "chart", type := "Chart" }

def chartDocument : Document := { components := [chart] }

def brokenActs : List (Act Unit) := [
  .render () brokenRegistry chartDocument {},
  .retry () brokenRegistry chartDocument {} "chart",
  .render () brokenRegistry chartDocument {}]

def chartFallback (retries : UInt32) : Block :=
  .fallback "chart" "Chart" "no data" retries (standardFallback "no data" true)

def brokenLog : History := [
  .visit (.failed chart ⟨"chart", "Chart", 1⟩ "no data" (chartFallback 0)),
  .retry "chart",
  .visit (.failed chart ⟨"chart", "Chart", 2⟩ "no data" (chartFallback 1)),
  .visit (.kept chart (chartFallback 1))]

theorem brokenLog_recorded : Recorded { options := {} } brokenActs brokenLog := by
  have hfirst : Records { options := {} } (.render () brokenRegistry chartDocument {})
      ([.failed chart ⟨"chart", "Chart", 1⟩ "no data" (chartFallback 0)].map .visit) :=
    .render rfl (.failed (e := .failed "no data") rfl rfl rfl rfl rfl rfl (.done _)) rfl
  have hretry : Records
      { options := {}, failures := { table := [("chart", "no data")] },
        updates := { table := [("chart", 1)] } }
      (.retry () brokenRegistry chartDocument {} "chart")
      (.retry "chart" ::
        [.failed chart ⟨"chart", "Chart", 2⟩ "no data" (chartFallback 1)].map .visit) :=
    .retry rfl (.failed (e := .failed "no data") rfl rfl rfl rfl rfl rfl (.done _))
  have hlast : Records
      { options := {}, failures := { table := [("chart", "no data")] },
        retries := { table := [("chart", 1)] }, updates := { table := [("chart", 2)] } }
      (.render () brokenRegistry chartDocument {}) ([.kept chart (chartFallback 1)].map .visit) :=
    .render rfl (.kept rfl rfl rfl rfl (.done _)) rfl
  exact .cons hfirst (.cons hretry (.cons hlast (.nil _)))

theorem brokenActs_history : (run {} brokenActs).hasFailed "chart" ∧
    ((run {} brokenActs).retryCount "chart").toNat = 1 ∧
    brokenLog.standing "chart" = some "no data" ∧ brokenLog.attempts "chart" = 2 := by
  have hcalm : RenderOptions.Calm (σ := Unit) {} := ⟨nofun, nofun, nofun⟩
  have hacts : ∀ a ∈ brokenActs, a.Calm := by
    intro a ha
    simp only [brokenActs, List.mem_cons, List.not_mem_nil, or_false] at ha
    have hbroken : brokenRegistry.Calm :=
      Registry.calm_of_forall_mem (List.forall_mem_singleton.2 trivial)
    rcases ha with rfl | rfl | rfl <;> exact hbroken
  obtain ⟨hfailed, -, hcounts⟩ :=
    (run_history hcalm hacts).2 brokenLog brokenLog_recorded "chart"
  obtain ⟨hretries, -⟩ := hcounts (by decide) (by decide)
  exact ⟨hfailed.2 (by decide), hretries, by decide, by decide⟩

end Renderer

end PageConfig

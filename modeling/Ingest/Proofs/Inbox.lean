import Ingest.Proofs.ServiceLifetimes
import Ingest.Proofs.SignalCounts

/-!
What comes in from tenants, by caches: the events that are appended and the signals. Main statements:
what an append, a signal, a query and a collection each do to the metrics of a cache and to the board of
signals keeps them telling of what came in, so that every signal is counted once.
-/

namespace Ingest

variable {σ : Type}

/-! ### Events and their metrics -/

/-- What came in from tenants: the events they appended and their signals. -/
structure Inbox where
  events : List (Tenant × List Event) := []
  signals : List Signal := []

/-- The events among some groups that go to the cache of a tenant. -/
def eventsFor (settings : Settings) (t : Tenant) (groups : List (Tenant × List Event)) :
    List Event :=
  (groups.filter fun g => decide (settings.owner g.1 = settings.owner t)).flatMap Prod.snd

theorem eventsFor_append (settings : Settings) (t : Tenant) (gs hs : List (Tenant × List Event)) :
    eventsFor settings t (gs ++ hs) = eventsFor settings t gs ++ eventsFor settings t hs := by
  simp [eventsFor]

def metricsIn (es : List Event) : List ReportMetric := es.filterMap Event.reportMetric?

theorem metricsIn_append (es fs : List Event) :
    metricsIn (es ++ fs) = metricsIn es ++ metricsIn fs := List.filterMap_append

theorem metricsIn_reportMetrics (ms : List ReportMetric) : metricsIn (ms.map .reportMetric) = ms := by
  rw [metricsIn, List.filterMap_map]
  exact List.filterMap_some

/-- The rows of metrics. -/
def metricRows (ms : List ReportMetric) : List Row := ms.map fun m => Sql.renderTuple m.values

theorem rowsOf_reportMetric (es : List Event) :
    rowsOf es .reportMetric = metricRows (metricsIn es) := by
  induction es with
  | nil => rfl
  | cons e es ih =>
    cases e with
    | reportMetric m => exact congrArg (Sql.renderTuple m.values :: ·) ih
    | _ => exact ih

/-- Metrics give rows of no other kind. -/
theorem rowsOf_reportMetrics (ms : List ReportMetric) {k : Kind} (h : k ≠ .reportMetric) :
    rowsOf (ms.map .reportMetric) k = [] := by
  induction ms with
  | nil => exact rowsOf_nil k
  | cons m ms ih =>
    have hone : rowsOf [.reportMetric m] k = [] := by
      cases k <;> first | rfl | exact absurd rfl h
    have hcons : (m :: ms).map Event.reportMetric = [.reportMetric m] ++ ms.map .reportMetric := rfl
    rw [hcons, rowsOf_append, hone, ih]
    rfl

theorem Settings.owner_owner (settings : Settings) (t : Tenant) :
    settings.owner (settings.owner t) = settings.owner t := by
  unfold owner
  split <;> rfl

namespace SignalBoard

theorem counted_append (c : SignalCount) (e : SlowEndpoint) (ms ns : List ReportMetric) :
    counted c e (ms ++ ns) = counted c e ms + counted c e ns := by
  simp [counted]

end SignalBoard

/-! ### Signals -/

namespace Inbox

/-- The signals of an endpoint from the tenants that share a cache. -/
def signalsFor (i : Inbox) (settings : Settings) (t : Tenant) (e : SlowEndpoint) : List Signal :=
  i.signals.filter fun x => decide (settings.owner x.tenant = settings.owner t ∧ x.endpoint = e)

def receive (i : Inbox) : LiveStep σ → Inbox
  | .serve (.append t _ es) => { i with events := i.events ++ [(t, es)] }
  | .serve (.addSignal x) => { i with signals := i.signals ++ [x] }
  | _ => i

/-- What came in by some steps. -/
def of (xs : List (LiveStep σ)) : Inbox := xs.foldl receive {}

/-- Whether metrics of the cache of a tenant, with what the board still holds, tell of what came in:
of the metrics that were appended, and beside them of every signal once. -/
structure ToldBy (i : Inbox) (settings : Settings) (t : Tenant) (ms : List ReportMetric)
    (b : SignalBoard) : Prop where
  sublist : (metricsIn (eventsFor settings t i.events)).Sublist ms
  sums : ∀ (c : SignalCount) e,
    SignalBoard.counted c e ms + ((heldFor settings t e b).map c.ofTally).sum
      = SignalBoard.counted c e (metricsIn (eventsFor settings t i.events))
        + ((i.signalsFor settings t e).map c.ofSignal).sum

namespace ToldBy

variable {i : Inbox} {settings : Settings} {t : Tenant} {ms : List ReportMetric} {b : SignalBoard}

theorem append (h : i.ToldBy settings t ms b) (groups : List (Tenant × List Event)) :
    ({ i with events := i.events ++ groups } : Inbox).ToldBy settings t
      (ms ++ metricsIn (eventsFor settings t groups)) b where
  sublist := by
    rw [eventsFor_append, metricsIn_append]
    exact h.sublist.append_right _
  sums c e := by
    have hold := h.sums c e
    have hsignals : ({ i with events := i.events ++ groups } : Inbox).signalsFor settings t e
        = i.signalsFor settings t e := rfl
    rw [eventsFor_append, metricsIn_append, SignalBoard.counted_append, SignalBoard.counted_append,
      hsignals]
    omega

/-- A signal is counted for the tenant under which it is known. -/
theorem add (h : i.ToldBy settings t ms b) (x : Signal) :
    ({ i with signals := i.signals ++ [x] } : Inbox).ToldBy settings t ms
      (b.add { x with tenant := settings.owner x.tenant }) where
  sublist := h.sublist
  sums c e := by
    have hold := h.sums c e
    rw [SignalBoard.sum_heldFor] at hold ⊢
    let known : Signal := { x with tenant := settings.owner x.tenant }
    have hadd := SignalBoard.sum_share_add (b := b) c
      (fun u => settings.owner u = settings.owner t) e known
    have hknown : (if settings.owner known.tenant = settings.owner t ∧ known.endpoint = e then
        c.ofSignal known else 0)
        = ((({ signals := [x] } : Inbox).signalsFor settings t e).map c.ofSignal).sum := by
      have howner : settings.owner known.tenant = settings.owner x.tenant := settings.owner_owner _
      have hendpoint : known.endpoint = x.endpoint := rfl
      have hcount : c.ofSignal known = c.ofSignal x := by cases c <;> rfl
      rw [howner, hendpoint, hcount, signalsFor]
      by_cases hx : settings.owner x.tenant = settings.owner t ∧ x.endpoint = e <;> simp [hx]
    have hsignals : ({ i with signals := i.signals ++ [x] } : Inbox).signalsFor settings t e
        = i.signalsFor settings t e ++ ({ signals := [x] } : Inbox).signalsFor settings t e :=
      List.filter_append ..
    rw [hadd, hknown, hsignals, List.map_append, List.sum_append_nat]
    dsimp only
    omega

theorem query (h : i.ToldBy settings t ms b) (n : AgentNode) :
    i.ToldBy settings t ms (b.query n).2 where
  sublist := h.sublist
  sums c e := by
    have hold := h.sums c e
    rw [SignalBoard.sum_heldFor] at hold ⊢
    rw [SignalBoard.sum_share_query, hold]

/-- A collection makes metrics of all that the board holds. -/
theorem collect (h : i.ToldBy settings t ms b) (hsound : b.Sound) (now : UInt64) :
    i.ToldBy settings t
      (ms ++ metricsIn (eventsFor settings t ((b.collect now).1.map Ingestor.metricEvents)))
      (b.collect now).2 where
  sublist := h.sublist.trans (List.sublist_append_left _ _)
  sums c e := by
    have hold := h.sums c e
    have hcounted := SignalBoard.counted_collect hsound c e now
      (fun u => settings.owner u = settings.owner t)
    have hnone : heldFor settings t e (b.collect now).2 = [] := rfl
    rw [SignalBoard.sum_heldFor, ← hcounted] at hold
    rw [eventsFor, Ingestor.flatMap_metricEvents _ (fun u => settings.owner u = settings.owner t),
      metricsIn_reportMetrics, SignalBoard.counted_append, hnone]
    exact hold

end ToldBy

end Inbox

end Ingest

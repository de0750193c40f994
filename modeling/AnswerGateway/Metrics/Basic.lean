import AnswerGateway.Metrics.PathLabel

/-!
What the gateway counts. A series has a name and labels; it is a counter or the number of samples
of a duration. Durations themselves are not kept here. A series that was never touched is absent.
-/

namespace AnswerGateway

inductive Metrics.Kind where
  | counter | samples
  deriving DecidableEq, Repr

structure Metrics.Series where
  name : String
  labels : List (String × String)
  kind : Metrics.Kind
  deriving DecidableEq, Repr

structure Metrics where
  rows : List (Metrics.Series × Nat) := []
  deriving DecidableEq, Repr

namespace Metrics

def addRow (s : Series) (n : Nat) : List (Series × Nat) → List (Series × Nat)
  | [] => [(s, n)]
  | (t, m) :: rest => if s = t then (t, m + n) :: rest else (t, m) :: addRow s n rest

def countIn (s : Series) : List (Series × Nat) → Nat
  | [] => 0
  | (t, m) :: rest => if s = t then m else countIn s rest

def add (m : Metrics) (s : Series) (n : Nat) : Metrics := ⟨addRow s n m.rows⟩

/-- The number of a series; zero if it was never touched. -/
def count (m : Metrics) (s : Series) : Nat := countIn s m.rows

theorem countIn_addRow (s t : Series) (n : Nat) (rows : List (Series × Nat)) :
    countIn t (addRow s n rows) = countIn t rows + if t = s then n else 0 := by
  induction rows with
  | nil =>
    by_cases h : t = s <;> simp [addRow, countIn, h]
  | cons row rest ih =>
    obtain ⟨u, m⟩ := row
    by_cases hs : s = u
    · by_cases ht : t = u <;> simp [addRow, countIn, hs, ht]
    · by_cases ht : t = u
      · subst ht
        have : ¬ t = s := fun h => hs h.symm
        simp [addRow, countIn, hs, this]
      · simp [addRow, countIn, hs, ht, ih]

theorem count_add (m : Metrics) (s t : Series) (n : Nat) :
    (m.add s n).count t = m.count t + if t = s then n else 0 :=
  countIn_addRow s t n m.rows

inductive Lookup where
  | hit | miss | error
  deriving DecidableEq, Repr

def Lookup.name : Lookup → String
  | .hit => "hit"
  | .miss => "miss"
  | .error => "error"

inductive Write where
  | stored | embedError | upsertError
  deriving DecidableEq, Repr

def Write.name : Write → String
  | .stored => "stored"
  | .embedError => "embed_error"
  | .upsertError => "upsert_error"

inductive Event where
  | request (method path : String) (status : Nat)
  | lookup (result : Lookup)
  | enqueue (accepted : Bool)
  | write (result : Write)
  | relay (source outcome : String) (tokens : Nat)
  deriving DecidableEq, Repr

def lookupSeries (result : Lookup) : Series :=
  ⟨"semantic_cache_lookups_total", [("result", result.name)], .counter⟩

def enqueueSeries (accepted : Bool) : Series :=
  let result := if accepted then "accepted" else "dropped"
  ⟨"semantic_cache_records_total", [("result", result)], .counter⟩

def writeSeries (result : Write) : Series :=
  ⟨"semantic_cache_writes_total", [("result", result.name)], .counter⟩

def Event.rows : Event → List (Series × Nat)
  | .request method path status =>
    let labels := [("method", method), ("path", pathLabel path), ("status", toString status)]
    [(⟨"http_requests_total", labels, .counter⟩, 1),
      (⟨"http_request_duration_seconds", labels, .samples⟩, 1)] ++
    if 500 ≤ status then [(⟨"http_server_errors_total", labels, .counter⟩, 1)] else []
  | .lookup result =>
    [(lookupSeries result, 1),
      (⟨"semantic_cache_lookup_duration_seconds", [("result", result.name)], .samples⟩, 1)]
  | .enqueue accepted => [(enqueueSeries accepted, 1)]
  | .write result =>
    [(writeSeries result, 1),
      (⟨"semantic_cache_write_duration_seconds", [("result", result.name)], .samples⟩, 1)]
  | .relay source outcome tokens =>
    [(⟨"relay_requests_total", [("outcome", outcome), ("source", source)], .counter⟩, 1)] ++
    if 0 < tokens then [(⟨"relay_tokens_total", [("source", source)], .counter⟩, tokens)] else []

def record (m : Metrics) (e : Event) : Metrics := e.rows.foldl (fun m r => m.add r.1 r.2) m

end Metrics

end AnswerGateway

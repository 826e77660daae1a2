/-
Roster.Http.Traffic — how many requests there were.

Requests are counted by method, path and status, where the path is the pattern
that the request matched. The counts are written in the text format of
Prometheus.
-/
import Roster.Digits

namespace Roster.Http

/-- What requests are told apart by. -/
structure TrafficKey where
  method : String
  path : String
  status : Nat
  deriving DecidableEq, Repr

namespace TrafficKey

/-- A label value between quotes, with the characters escaped that would end it. -/
def label (s : String) : String :=
  "\"" ++ String.ofList (s.toList.flatMap fun c =>
    if c = '\\' ∨ c = '"' then ['\\', c] else if c = '\n' then ['\\', 'n'] else [c]) ++ "\""

/-- What tells the requests apart, as labels. -/
def labels (k : TrafficKey) : String :=
  "\x7bmethod=" ++ label k.method ++ ",path=" ++ label k.path ++ ",status=" ++
    label (Digits.natText k.status) ++ "\x7d"

end TrafficKey

/-- The number of requests of each kind. -/
abbrev Traffic := List (TrafficKey × Nat)

namespace Traffic

/-- Counts one more request. -/
def record (k : TrafficKey) : Traffic → Traffic
  | [] => [(k, 1)]
  | (k', n) :: rest => if k' = k then (k', n + 1) :: rest else (k', n) :: record k rest

/-- The counts under a name, one line each. -/
def lines (name : String) (t : Traffic) : String :=
  String.join (t.map fun (k, n) => name ++ k.labels ++ " " ++ Digits.natText n ++ "\n")

/-- All counts as text; without any there is none. -/
def text (t : Traffic) : String :=
  if t.isEmpty then ""
  else
    "# TYPE http_requests_total counter\n" ++ lines "http_requests_total" t ++
      "\n# TYPE http_request_duration_seconds summary\n" ++
      lines "http_request_duration_seconds_count" t ++ "\n"

end Traffic

end Roster.Http

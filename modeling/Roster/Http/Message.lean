/-
Roster.Http.Message — requests and replies.

Names of headers are in small letters, and a name may occur more than once. Of
a reply that is a file only the name is kept.
-/
import Roster.Json.Value
import Roster.Net.Address

namespace Roster.Http

/-- Headers in order; names are in small letters. -/
abbrev Headers := List (String × String)

namespace Headers

/-- The first value of a name. -/
def first? (hs : Headers) (name : String) : Option String := hs.lookup name

/-- All values of a name, in order. -/
def all (hs : Headers) (name : String) : List String :=
  hs.filterMap fun (k, v) => if k = name then some v else none

/-- Puts one value in place of all that a name has. -/
def put (hs : Headers) (name value : String) : Headers :=
  hs.filter (fun h => h.1 ≠ name) ++ [(name, value)]

/-- Puts each of the given headers in place. -/
def putAll (hs more : Headers) : Headers := more.foldl (fun hs (k, v) => hs.put k v) hs

/-- After a header has been put it has that one value. -/
theorem all_put (hs : Headers) (name value : String) : (hs.put name value).all name = [value] := by
  simp only [all, put, List.filterMap_append]
  have : (hs.filter fun h => h.1 ≠ name).filterMap
      (fun (k, v) => if k = name then some v else none) = [] := by
    rw [List.filterMap_eq_nil_iff]
    intro h mem
    have := (List.mem_filter.1 mem).2
    simp_all
  rw [this]
  simp

/-- Putting a header leaves the others as they are. -/
theorem all_put_of_ne (hs : Headers) {name other : String} (value : String) (h : other ≠ name) :
    (hs.put name value).all other = hs.all other := by
  simp only [all, put, List.filterMap_append, List.filterMap_filter]
  simp only [List.filterMap_cons, List.filterMap_nil, if_neg (Ne.symm h), List.append_nil]
  congr 1
  funext x
  by_cases hx : x.1 = other <;> simp_all

theorem first?_put_of_ne (hs : Headers) {name other : String} (value : String)
    (h : other ≠ name) : (hs.put name value).first? other = hs.first? other := by
  have differ : (other == name) = false := by simp [h]
  simp only [first?, put]
  induction hs with
  | nil => simp [List.lookup_cons, differ]
  | cons row rest ih =>
    obtain ⟨k, v⟩ := row
    by_cases hk : k = name
    · subst hk
      rw [List.filter_cons_of_neg (by simp), ih, List.lookup_cons, differ]
    · rw [List.filter_cons_of_pos (by simpa using hk), List.cons_append, List.lookup_cons, ih,
        List.lookup_cons]

end Headers

/-- Printable ASCII, the space and the tab: what a value may hold to be read as text. -/
def isVisible (c : Char) : Bool := (0x20 ≤ c.toNat && c.toNat < 0x7F) || c.toNat == 0x09

/-- A header value as text, if it is visible throughout. -/
def visible? (value : String) : Option String :=
  if value.toList.all isVisible then some value else none

/-- Whether a text can be a header value: no controls but the tab. -/
def isHeaderValue (s : String) : Bool :=
  s.toList.all fun c => (0x20 ≤ c.toNat && c.toNat != 0x7F) || c.toNat == 0x09

structure Request where
  method : String
  /-- Path and query as they were sent. -/
  path : String
  query : String
  headers : Headers
  body : List UInt8
  /-- The address that the connection is from, if it is known. -/
  peer : Option Net.Address

/-- What a reply holds. -/
inductive Content where
  | empty
  | json (value : Json.Value)
  | text (s : String)
  | file (name mediaType : String)

namespace Content

/-- The type of the content, if there is any. -/
def mediaType? : Content → Option String
  | empty => none
  | json _ => some "application/json"
  | text _ => some "text/plain; charset=utf-8"
  | file _ mediaType => some mediaType

end Content

structure Reply where
  status : Nat
  headers : Headers
  content : Content

namespace Reply

/-- A reply with its content and the header that says what it is. -/
def ofContent (status : Nat) (content : Content) : Reply :=
  ⟨status, (content.mediaType?.map fun t => ("content-type", t)).toList, content⟩

def empty (status : Nat) : Reply := ofContent status .empty

def json (status : Nat) (v : Json.Value) : Reply := ofContent status (.json v)

def put (r : Reply) (name value : String) : Reply :=
  { r with headers := r.headers.put name value }

def putAll (r : Reply) (hs : Headers) : Reply := { r with headers := r.headers.putAll hs }

end Reply

end Roster.Http

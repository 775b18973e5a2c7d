/-!
# Patterns

A pattern denotes, at each place of a text, the places where a match from
there can end, the preferred one first. Preference is leftmost: the first of
two alternatives, and more turns before fewer unless a repetition is lazy.
Each place is listed once, which keeps the lists short.
-/

set_option autoImplicit false

namespace PageConfig

/-- A place in a text: the character before it, what follows it, and the
number of characters before it. -/
structure Cursor where
  before : Option Char
  rest : List Char
  index : Nat

namespace Cursor

def start (s : List Char) : Cursor := ⟨none, s, 0⟩

def next? (c : Cursor) : Option (Char × Cursor) :=
  match c.rest with
  | [] => none
  | ch :: rest => some (ch, ⟨some ch, rest, c.index + 1⟩)

/-- The places in their sequence, each where it comes first. The bits of `seen`
are the indices met before. -/
def distinct : Nat → List Cursor → List Cursor
  | _, [] => []
  | seen, c :: cs =>
    if seen.testBit c.index then distinct seen cs
    else c :: distinct (seen ||| 1 <<< c.index) cs

theorem mem_of_mem_distinct {seen : Nat} {cs : List Cursor} {c : Cursor}
    (h : c ∈ distinct seen cs) : c ∈ cs := by
  induction cs generalizing seen with
  | nil => simp [distinct] at h
  | cons d cs ih =>
    simp only [distinct] at h
    split at h
    · exact List.mem_cons_of_mem _ (ih h)
    · rcases List.mem_cons.1 h with rfl | h
      · exact List.mem_cons_self
      · exact List.mem_cons_of_mem _ (ih h)

end Cursor

inductive Pattern where
  | empty
  | one (set : Char → Bool)
  | look (holds : Option Char → Option Char → Bool)
  | cat (p q : Pattern)
  | alt (p q : Pattern)
  | rep (least : Nat) (most : Option Nat) (greedy : Bool) (p : Pattern)

namespace Pattern

def turns (step : Cursor → List Cursor) : Nat → List Cursor → List Cursor
  | 0, cs => cs
  | n + 1, cs =>
    match cs with
    | [] => []
    | cs => turns step n (Cursor.distinct 0 (cs.flatMap step))

/-- Up to `left` further turns, each of which takes something, in order of
preference but last first. A place reached before with as many turns left
leads nowhere new. The fuel is the number of characters left. -/
def climb (step : Cursor → List Cursor) (greedy : Bool) :
    Nat → Option Nat → List (Cursor × Option Nat) → Cursor → List (Cursor × Option Nat)
  | 0, left, done, c => (c, left) :: done
  | fuel + 1, left, done, c =>
    if done.any fun d => d.1.index = c.index && enough d.2 left then done
    else if left = some 0 then (c, left) :: done
    else
      let further := (step c).filter fun d => c.index < d.index
      let fewer := left.map (· - 1)
      if greedy then (c, left) :: further.foldl (climb step greedy fuel fewer) done
      else further.foldl (climb step greedy fuel fewer) ((c, left) :: done)
where
  enough : Option Nat → Option Nat → Bool
    | none, _ => true
    | some _, none => false
    | some m, some n => n ≤ m

/-- Where a match from the cursor can end, the preferred place first. A turn
of a repetition beyond the required ones has to take something. -/
def ends : Pattern → Cursor → List Cursor
  | empty, c => [c]
  | one set, c =>
    match c.next? with
    | some (ch, d) => if set ch then [d] else []
    | none => []
  | look holds, c => if holds c.before c.rest.head? then [c] else []
  | cat p q, c => Cursor.distinct 0 ((p.ends c).flatMap q.ends)
  | alt p q, c => Cursor.distinct 0 (p.ends c ++ q.ends c)
  | rep least most greedy p, c =>
    let left := most.map (· - least)
    let climbed := (turns p.ends least [c]).foldl
      (fun done d => climb p.ends greedy d.rest.length left done d) []
    Cursor.distinct 0 (climbed.reverse.map Prod.fst)

def occursFrom (p : Pattern) (before : Option Char) (index : Nat) : List Char → Bool
  | [] => !(p.ends ⟨before, [], index⟩).isEmpty
  | ch :: rest =>
    !(p.ends ⟨before, ch :: rest, index⟩).isEmpty || occursFrom p (some ch) (index + 1) rest

def occursIn (p : Pattern) (s : String) : Bool := p.occursFrom none 0 s.toList

/-- The text without the leftmost matches, found from left to right without
overlap. Matches that take nothing remove nothing. -/
def removeFrom (p : Pattern) (c : Cursor) : List Char :=
  match _h : c.rest with
  | [] => []
  | ch :: rest =>
    match (p.ends c).head? with
    | some d =>
      if d.rest.length < c.rest.length then removeFrom p d
      else ch :: removeFrom p ⟨some ch, rest, c.index + 1⟩
    | none => ch :: removeFrom p ⟨some ch, rest, c.index + 1⟩
termination_by c.rest.length
decreasing_by
  · assumption
  · simp [_h]
  · simp [_h]

def remove (p : Pattern) (s : List Char) : List Char := p.removeFrom (.start s)

def oneOf (cs : List Char) : Pattern := one fun c => cs.contains c

def sequence : List Pattern → Pattern
  | [] => empty
  | p :: ps => ps.foldl cat p

def many (p : Pattern) : Pattern := rep 0 none true p

def atLeastOne (p : Pattern) : Pattern := rep 1 none true p

def maybe (p : Pattern) : Pattern := rep 0 (some 1) true p

end Pattern

end PageConfig

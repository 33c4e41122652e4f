import BoxOffice.Address.Authority

/-!
# BoxOffice.Address.Path

The path of an address: segments with slashes before them. A segment of one dot
stands for the place where it is and one of two dots for the place above, so neither
is left in a path; a dot may be written as `%2e`. The drive of a path is not left
upwards. A path that follows a colon without a slash is a text of its own.

Main statement: no segment of one or two dots is left (`not_isDots_of_mem_walk`).
-/

namespace BoxOffice.Address

/-- The dots that a segment consists of, if it does. -/
def dots? : List Char → Option Nat
  | [] => some 0
  | '.' :: cs => (dots? cs).map (· + 1)
  | '%' :: '2' :: e :: cs => if e = 'e' ∨ e = 'E' then (dots? cs).map (· + 1) else none
  | _ => none

/-- A segment that stands for the place where it is. -/
def isHere (segment : List Char) : Bool := dots? segment = some 1

/-- A segment that stands for the place above. -/
def isAbove (segment : List Char) : Bool := dots? segment = some 2

/-- The place above the one that segments lead to, the last segment first. -/
def above : List (List Char) → List (List Char)
  | [] => []
  | segment :: rest => if isDrive segment then segment :: rest else rest

/-- The segments that are left of some, after others, the last of which comes first.
A path does not end in dots, but in the slash after which they stand. -/
def walk (done : List (List Char)) : List (List Char) → List (List Char)
  | [] => done.reverse
  | segment :: rest =>
    if isHere segment ∨ isAbove segment then
      let done := if isAbove segment then above done else done
      walk (if rest = [] then [] :: done else done) rest
    else walk (segment :: done) rest

/-- The path of what follows its first slash. -/
def joinPath (m : Manner) (cs : List Char) : List Char :=
  let segments := (cs.map fun c => if isSlash m c then '/' else c).splitOn '/'
  (walk [] segments).flatMap ('/' :: ·)

/-- A path, after an authority or not. -/
def readPath (m : Manner) (sited : Bool) (cs : List Char) : List Char :=
  match cs with
  | [] => if m = .plain then [] else ['/']
  | c :: rest =>
    if isSlash m c then joinPath m rest
    else if sited || m != .plain then joinPath m (c :: rest)
    else c :: rest

theorem mem_above {s : List Char} {done : List (List Char)} (h : s ∈ above done) : s ∈ done := by
  unfold above at h
  split at h
  · exact h
  · split at h
    · exact h
    · exact List.mem_cons_of_mem _ h

theorem not_isDots_of_mem_walk {done rest : List (List Char)}
    (hd : ∀ s ∈ done, isHere s = false ∧ isAbove s = false) :
    ∀ s ∈ walk done rest, isHere s = false ∧ isAbove s = false := by
  induction rest generalizing done with
  | nil => simpa [walk] using hd
  | cons segment rest ih =>
    have nil : isHere [] = false ∧ isAbove [] = false := by decide
    have up : ∀ s ∈ (if isAbove segment then above done else done),
        isHere s = false ∧ isAbove s = false := by
      intro s hs
      split at hs
      · exact hd s (mem_above hs)
      · exact hd s hs
    rw [walk]
    split
    · refine ih ?_
      split
      · exact List.forall_mem_cons.2 ⟨nil, up⟩
      · exact up
    · next h =>
      rw [not_or, Bool.not_eq_true, Bool.not_eq_true] at h
      exact ih (List.forall_mem_cons.2 ⟨h, hd⟩)

end BoxOffice.Address

import ContentFilter.Text.Word

/-!
# Paths

A path names a resource by the names on the way to it, a slash between two of them. The path of a
resource begins with a slash and, but for the path of slashes alone, does not end with one. The
segments of a path are what stands between its slashes; the main statement is that the segments of
two paths joined by a slash are those of the one and then those of the other.
-/

namespace ContentFilter.Path

open Text

/-- What stands between the slashes of a path, empty texts among them. -/
def segments : List Char → List (List Char)
  | [] => [[]]
  | c :: r =>
    if c = '/' then [] :: segments r
    else
      match segments r with
      | [] => [[c]]
      | s :: ss => (c :: s) :: ss

/-- The path without slashes at its end. -/
def dropFinalSlashes (path : List Char) : List Char :=
  (path.reverse.dropWhile (· = '/')).reverse

/-- The path in the form in which resources have theirs. -/
def normalize (path : String) : String :=
  match dropFinalSlashes path.toList with
  | [] => "/"
  | '/' :: r => String.ofList ('/' :: r)
  | r => String.ofList ('/' :: r)

/-- The path of a child. -/
def join (parent name : String) : String :=
  if parent = "/" then "/" ++ name else parent ++ "/" ++ name

/-- The last name of a path: what follows its last slash. -/
def lastName (path : String) : String :=
  String.ofList (path.toList.reverse.takeWhile (· ≠ '/')).reverse

/-- What stands before and after the last slash, if there is one. -/
def splitLast? (path : List Char) : Option (List Char × List Char) :=
  match path.reverse.dropWhile (· ≠ '/') with
  | [] => none
  | _ :: front => some (front.reverse, (path.reverse.takeWhile (· ≠ '/')).reverse)

/-- What follows the path of a resource and a slash in the path of another one. -/
def below? (ancestor path : String) : Option (List Char) :=
  afterPrefix? (if ancestor = "/" then ['/'] else ancestor.toList ++ ['/']) path.toList

/-! ## Segments -/

theorem segments_ne_nil (path : List Char) : segments path ≠ [] := by
  cases path with
  | nil => simp [segments]
  | cons c r => unfold segments; split <;> (try split) <;> simp

/-- A slash between two paths joins their segments. -/
theorem segments_append_slash (a b : List Char) :
    segments (a ++ '/' :: b) = segments a ++ segments b := by
  induction a with
  | nil => simp [segments]
  | cons c r ih =>
    simp only [List.cons_append, segments]
    split
    · simp [ih]
    · rw [ih]
      cases h : segments r with
      | nil => exact absurd h (segments_ne_nil r)
      | cons s ss => simp

/-- A text without slashes is its only segment. -/
theorem segments_of_not_mem {s : List Char} (h : '/' ∉ s) : segments s = [s] := by
  induction s with
  | nil => rfl
  | cons c r ih =>
    simp only [List.mem_cons, not_or] at h
    have hc : c ≠ '/' := fun hc => h.1 hc.symm
    simp [segments, hc, ih h.2]

end ContentFilter.Path

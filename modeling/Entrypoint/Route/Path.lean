import Entrypoint.Text.Split

/-! Route paths in clean form. Cleaning is lexical: repeated and trailing slashes go, a single dot
goes, and two dots take the segment before them away. -/

namespace Entrypoint.Route

/-- The segment that leads back. -/
def back : List Char := ['.', '.']

/-- Puts one segment on the stack of segments, whose top is its head. Two dots take the top away;
they stay only where nothing can be taken from a path that is not rooted. -/
def push (rooted : Bool) (stack : List (List Char)) (segment : List Char) : List (List Char) :=
  if segment = [] ∨ segment = ['.'] then stack
  else if segment = back then
    match stack with
    | top :: below => if top = back then (if rooted then stack else back :: stack) else below
    | [] => if rooted then [] else [back]
  else segment :: stack

/-- The path begins at the root. -/
def isRooted (path : List Char) : Bool := path.head? == some '/'

/-- The segments of the clean form, first to last. -/
def segments (path : List Char) : List (List Char) :=
  ((Text.splitAt '/' path).foldl (push (isRooted path)) []).reverse

/-- The text of clean segments; no segments are the root or the current place. -/
def ofSegments (rooted : Bool) (segments : List (List Char)) : List Char :=
  if rooted then '/' :: Text.joinWith ['/'] segments
  else if segments.isEmpty then ['.']
  else Text.joinWith ['/'] segments

/-- A path in clean form. -/
def clean (path : List Char) : List Char := ofSegments (isRooted path) (segments path)

/-- A path below a base path, in clean form. An empty base adds nothing. -/
def combine (base path : List Char) : List Char :=
  if base.isEmpty then clean path else clean (base ++ '/' :: path)

/-- A path in clean form, as a string. -/
def cleanPath (path : String) : String := String.ofList (clean path.toList)

/-- A path below a base path in clean form, as a string. -/
def combinePaths (base path : String) : String := String.ofList (combine base.toList path.toList)

end Entrypoint.Route

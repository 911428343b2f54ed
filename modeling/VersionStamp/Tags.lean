import VersionStamp.Version

/-! Searching tags for versions. Of the names that match a template the newest version is found,
and the version after it is the next one to be released. -/

namespace VersionStamp

open Calendar

namespace Template

def recognized (t : Template) (names : List (List Char)) : List (List Char) :=
  names.filter t.recognizes

/-- The later of two states; the first of equal ones. -/
def newer (best : Option State) (s : State) : Option State :=
  match best with
  | none => some s
  | some b => if s.order b = .gt then some s else some b

/-- Reads names one after the other, each at a time of its own, and keeps the newest state. Names
that cannot be read are passed over. -/
def newestOf (t : Template) (zone : Zone) (mode : ZoneMode) :
    List (List Char) → Option State → Clock → Option State × Clock
  | [], best, clock => (best, clock)
  | name :: rest, best, clock =>
    match t.parse zone mode clock name with
    | (.error _, clock) => newestOf t zone mode rest best clock
    | (.ok s, clock) => newestOf t zone mode rest (newer best s) clock

def newestVersion (t : Template) (zone : Zone) (mode : ZoneMode) (clock : Clock)
    (names : List (List Char)) : Option Version × Clock :=
  let (best, clock) := t.newestOf zone mode (t.recognized names) none clock
  (best.map fun state => ⟨t, state⟩, clock)

/-- The version after the newest one; a version with counters 0 where there is none. -/
def followingVersion (t : Template) (zone : Zone) (mode : ZoneMode) (clock : Clock)
    (names : List (List Char)) : Except VersionError Version × Clock :=
  match t.newestVersion zone mode clock names with
  | (none, clock) => (.ok ⟨t, .fresh clock.read.1 mode⟩, clock.read.2)
  | (some v, clock) =>
    match v.advance clock with
    | ((v, .ok _), clock) => (.ok v, clock)
    | ((_, .error e), clock) => (.error e, clock)

end Template

end VersionStamp

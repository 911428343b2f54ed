import VersionStamp.Pattern.Basic
import VersionStamp.Text.Quoted

/-! What can be wrong with the text of a pattern. -/

namespace VersionStamp.Pattern

inductive Fault
  | unterminatedGroup
  | unbalancedParenthesis
  | unterminatedSet
  | unterminatedComment
  | nothingToRepeat
  | multipleRepeat
  | repeatOrder
  | danglingEscape
  | badEscape (text : List Char)
  | incompleteEscape (text : List Char)
  | octalTooLarge (text : List Char)
  | badRange (first last : List Char)
  | unexpectedEnd
  | unknownExtension (text : List Char)
  | missing (what : String)
  | unterminatedName (terminator : Char)
  | badGroupName (name : List Char)
  | unknownGroupName (name : List Char)
  | repeatedGroupName (name : List Char) (group former : Nat)
  | badGroupNumber
  | invalidReference (group : Nat)
  | openReference
  | lookbehindReference
  | thirdBranch
  | flagsNotAtStart
  | unknownFlag
  | localeFlag
  | alphabetFlags
  | globalFlag (turned : String)
  | lastingFlag
  | contraryFlags
  | lookbehindLength
  | lookbehindWidth
  | templateRepeat (manner : Manner)
  | repeatTooLarge
  | unreadableCount (cause : Text.NumeralError)
  | codeTooLarge
  | contraryAlphabets
  | unknownName (name : List Char)
  /-- What may be the name of a character cannot be looked up here. -/
  | namedCharacter (name : List Char)
  deriving DecidableEq, Repr

namespace Fault

def message : Fault → String
  | .unterminatedGroup => "missing ), unterminated subpattern"
  | .unbalancedParenthesis => "unbalanced parenthesis"
  | .unterminatedSet => "unterminated character set"
  | .unterminatedComment => "missing ), unterminated comment"
  | .nothingToRepeat => "nothing to repeat"
  | .multipleRepeat => "multiple repeat"
  | .repeatOrder => "min repeat greater than max repeat"
  | .danglingEscape => "bad escape (end of pattern)"
  | .badEscape text => "bad escape " ++ String.ofList text
  | .incompleteEscape text => "incomplete escape " ++ String.ofList text
  | .octalTooLarge text =>
    s!"octal escape value {String.ofList text} outside of range 0-0o377"
  | .badRange first last => s!"bad character range {String.ofList first}-{String.ofList last}"
  | .unexpectedEnd => "unexpected end of pattern"
  | .unknownExtension text => "unknown extension ?" ++ String.ofList text
  | .missing what => "missing " ++ what
  | .unterminatedName terminator => s!"missing {terminator}, unterminated name"
  | .badGroupName name => "bad character in group name " ++ String.ofList (Text.quoted name)
  | .unknownGroupName name => "unknown group name " ++ String.ofList (Text.quoted name)
  | .repeatedGroupName name group former =>
    s!"redefinition of group name {String.ofList (Text.quoted name)} as group {group}; " ++
      s!"was group {former}"
  | .badGroupNumber => "bad group number"
  | .invalidReference group => s!"invalid group reference {group}"
  | .openReference => "cannot refer to an open group"
  | .lookbehindReference => "cannot refer to group defined in the same lookbehind subpattern"
  | .thirdBranch => "conditional backref with more than two branches"
  | .flagsNotAtStart => "global flags not at the start of the expression"
  | .unknownFlag => "unknown flag"
  | .localeFlag => "bad inline flags: cannot use 'L' flag with a str pattern"
  | .alphabetFlags => "bad inline flags: flags 'a', 'u' and 'L' are incompatible"
  | .globalFlag turned => s!"bad inline flags: cannot turn {turned} global flag"
  | .lastingFlag => "bad inline flags: cannot turn off flags 'a', 'u' and 'L'"
  | .contraryFlags => "bad inline flags: flag turned on and off"
  | .lookbehindLength => "looks too much behind"
  | .lookbehindWidth => "look-behind requires fixed-width pattern"
  | .templateRepeat manner => "internal: unsupported template operator " ++ manner.name
  | .repeatTooLarge => "the repetition number is too large"
  | .unreadableCount cause => cause.message
  | .codeTooLarge => "Python int too large to convert to C int"
  | .unknownName name => "undefined character name " ++ String.ofList (Text.quoted name)
  | .contraryAlphabets => "ASCII and UNICODE flags are incompatible"
  | .namedCharacter name => s!"no character is known by the name {String.ofList (Text.quoted name)}"

/-- Faults of the reader itself and not of what was written. -/
def isForeign : Fault → Bool
  | .repeatTooLarge | .unreadableCount _ | .codeTooLarge | .contraryAlphabets
  | .namedCharacter _ => true
  | _ => false

end Fault

structure ReadError where
  fault : Fault
  position : Option Nat
  deriving DecidableEq, Repr

namespace ReadError

def placed (fault : Fault) (position : Nat) : ReadError := ⟨fault, some position⟩

/-- The fault and its place in the pattern text, by line and column too where the text has more
than one line. -/
def message (e : ReadError) (source : List Char) : String :=
  match e.position with
  | none => e.fault.message
  | some position =>
    let place := s!"{e.fault.message} at position {position}"
    if source.contains '\n' then
      let before := source.take position
      let line := before.count '\n' + 1
      let column := (before.reverse.takeWhile (· != '\n')).length + 1
      place ++ s!" (line {line}, column {column})"
    else place

end ReadError

end VersionStamp.Pattern

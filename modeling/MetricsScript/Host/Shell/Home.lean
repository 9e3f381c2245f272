import MetricsScript.Host.Shell.State
import MetricsScript.Host.Shell.Word

/-!
# The home directory

A tilde without quotes at the front of a path stands for the home directory, unless a name
follows it.  It is replaced before the other parts of a word are expanded.

The shell only serves to run tools on a machine; no theorem is about it.
-/

namespace MetricsScript
namespace Host
namespace Shell

/-- The parts of a text without quotes.  The home directory takes the place of a tilde that
stands at the front of a path, with a slash or nothing behind it.  In the value of an assignment
paths begin and end at colons too. -/
def textWithHome (home : String) (assigned last : Bool) : Bool → List Char → List Part
  | _, [] => []
  | front, c :: cs =>
      let endsHere := match cs with
        | [] => last
        | next :: _ => next == '/' || (assigned && next == ':')
      if c = '~' && front && endsHere then
        (if home.isEmpty then [] else [.text true home]) ++
          textWithHome home assigned last false cs
      else consText false c (textWithHome home assigned last (assigned && c == ':') cs)

mutual

/-- The part with the home directory in the places that its operand has. -/
def partWithHome (home : String) : Part → Part
  | .changed false name change operand =>
      .changed false name change (partsWithHome home false true operand)
  | part => part

/-- The parts of a word with the home directory in its places.  The flag `front` tells whether a
path begins here. -/
def partsWithHome (home : String) (assigned front : Bool) : List Part → List Part
  | [] => []
  | .text false text :: parts =>
      textWithHome home assigned parts.isEmpty front text.toList ++
        partsWithHome home assigned false parts
  | part :: parts => partWithHome home part :: partsWithHome home assigned false parts

end

/-- The word with the home directory in its places, if there is one. -/
def State.atHome (s : State) (assigned : Bool) (word : Word) : Word :=
  match s.bindings.lookup "HOME" with
  | some home => partsWithHome home assigned true word
  | none => word

end Shell
end Host
end MetricsScript

/-!
# Modes of patterns

A pattern is read and matched in modes, each of which has a letter.  They hold for the whole
pattern, or are switched on and off for a part of it.

## Main definitions

* `Flags` — the modes that are in force.
* `Flags.ofLetter?` — the mode of a letter.
* `FlagChange` — the modes that a part of a pattern switches on and off.
-/

namespace Intake.Pattern

/-- The modes of a pattern.  Of the two that choose a script, neither or both may be asked for
while a pattern is read. -/
structure Flags where
  ignoreCase : Bool := false
  multiline : Bool := false
  dotAll : Bool := false
  verbose : Bool := false
  ascii : Bool := false
  unicode : Bool := false
  template : Bool := false
deriving DecidableEq, Repr

namespace Flags

/-- The mode that a letter stands for. -/
def ofLetter? : Char → Option Flags
  | 'i' => some { ignoreCase := true }
  | 'm' => some { multiline := true }
  | 's' => some { dotAll := true }
  | 'x' => some { verbose := true }
  | 'a' => some { ascii := true }
  | 'u' => some { unicode := true }
  | 't' => some { template := true }
  | _ => none

/-- Two sets of modes put together. -/
def combine (op : Bool → Bool → Bool) (a b : Flags) : Flags where
  ignoreCase := op a.ignoreCase b.ignoreCase
  multiline := op a.multiline b.multiline
  dotAll := op a.dotAll b.dotAll
  verbose := op a.verbose b.verbose
  ascii := op a.ascii b.ascii
  unicode := op a.unicode b.unicode
  template := op a.template b.template

/-- The modes of either set. -/
def union : Flags → Flags → Flags :=
  combine (· || ·)

/-- The modes of both sets. -/
def inter : Flags → Flags → Flags :=
  combine (· && ·)

/-- The modes of the first set that are not in the second. -/
def without : Flags → Flags → Flags :=
  combine (· && !·)

/-- Whether no mode is on. -/
def isEmpty (flags : Flags) : Bool :=
  flags = {}

/-- Whether a script is chosen. -/
def choosesScript (flags : Flags) : Bool :=
  flags.ascii || flags.unicode

/-- The modes without the choice of a script. -/
def withoutScript (flags : Flags) : Flags :=
  { flags with ascii := false, unicode := false }

/-- The names of the modes that a diagnostic lists, in its order. -/
def names (flags : Flags) : List String :=
  [(flags.template, "TEMPLATE"), (flags.ignoreCase, "IGNORECASE"), (flags.multiline, "MULTILINE"),
   (flags.dotAll, "DOTALL"), (flags.verbose, "VERBOSE"), (flags.ascii, "ASCII")].filterMap
    fun (isOn, name) => if isOn then some name else none

end Flags

/-- The modes that a part of a pattern switches on and off. -/
structure FlagChange where
  on : Flags := {}
  off : Flags := {}
deriving DecidableEq, Repr

namespace FlagChange

/-- Whether nothing is changed. -/
def isEmpty (change : FlagChange) : Bool :=
  change.on.isEmpty && change.off.isEmpty

/-- The modes after a change.  A script that is switched on takes the place of the other. -/
def apply (change : FlagChange) (flags : Flags) : Flags :=
  let kept := if change.on.choosesScript then flags.withoutScript else flags
  (kept.union change.on).without change.off

end FlagChange

end Intake.Pattern

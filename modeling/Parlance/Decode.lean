import Parlance.Fault
import Parlance.Value

/-!
# Decoding data formats

What a reader of a data format answers in the place of a value: the text may not be of the format,
or it may be of the format and write down something that there is no value for, such as the
thirtieth of February.
-/

namespace Parlance

/-- Why a text decodes to no value. -/
inductive DecodeFault where
  /-- The text is not of the format. -/
  | malformed (detail : String)
  /-- The text is of the format, but a scalar in it denotes nothing. -/
  | noSuchValue (failure : Failure)
deriving DecidableEq, Repr

/-- A reader of a data format. -/
abbrev Decoder := String → Except DecodeFault Value

/-- Why a text decodes to no JSON value. -/
inductive JsonFault where
  /-- The text is not JSON. -/
  | malformed (detail : String)
  /-- The reader gives the text up at an integer of too many digits. -/
  | oversizedNumber (digits : Nat)
  /-- The reader gives the text up at lists and objects that are nested in each other too deeply. -/
  | tooDeep
deriving DecidableEq, Repr

/-- A reader of JSON. -/
abbrev JsonDecoder := String → Except JsonFault Value

end Parlance

import QueryGateway.Moment.Reading

/-!
# Stored moments

How moments are kept in storage: in universal time with its offset. Text that came
there in another way may have other forms, with a blank for the divider, without
seconds, or without a zone, which then is universal time.
-/

namespace QueryGateway.Moment

/-- The forms of a stored moment, besides the strict one. -/
def storedForms : List (List Part) :=
  let short : List Part := [.hour, .literal ':', .minute]
  let zone : Part := .zone false false
  let blank (rest : List Part) : List Part := datePattern ++ [.space] ++ rest
  let divided (rest : List Part) : List Part := datePattern ++ [.literal 'T'] ++ rest
  [blank clockPattern, blank short, blank (short ++ [.literal 'Z']), blank (short ++ [zone]),
    blank (clockPattern ++ [.literal 'Z']), blank (clockPattern ++ [zone]),
    divided short, divided (short ++ [.literal 'Z']), divided (short ++ [zone]),
    divided clockPattern, divided (clockPattern ++ [.literal 'Z']),
    divided (clockPattern ++ [zone])]

/-- The moment of a text in one form. A zone that cannot be used is passed over. -/
def ofForm? (text : String) (form : List Part) : Option Moment :=
  match readFields form text with
  | .ok f => f.universal.toOption.or f.localMoment.toOption
  | .error _ => none

/-- The moment of a stored text. -/
def ofStored? (text : String) : Option Moment :=
  (parseStrict text).or (storedForms.findSome? (ofForm? text))

end QueryGateway.Moment

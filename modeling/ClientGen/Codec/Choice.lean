import ClientGen.Codec.Go

/-!
# Choosing a codec

One codec per language.
-/

namespace ClientGen

/-- The codec of a language, built from its options. -/
def Codec.ofLanguage (currentYear language : String) (options : Table String String) :
    Except GeneratorError Codec :=
  if language = GoCodec.language then
    match GoCodec.ofOptions currentYear options with
    | .ok c => .ok c.toCodec
    | .error e => .error e
  else .error (.unknownLanguage language)

end ClientGen

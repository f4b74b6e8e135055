import IotCore.Library.JsonText
import IotCore.Model.EventStream.Connection

/-! # `awsiot.eventstreamrpc.MessageAmendment.create_static_authtoken_amender`

A `str` is a list of code points: it may hold surrogates, which `str.encode` refuses. -/

namespace IotCore.EventStream

open JsonText

/-- `str.encode()`; `none` is a `UnicodeEncodeError`. -/
def encode : Str → Option (List UInt8)
  | [] => some []
  | .char c :: s => (encode s).map (String.utf8EncodeChar c ++ ·)
  | .surrogate _ :: _ => none

/-- The template up to `%s`. -/
def templateStart : List Char := "\x7b\"authToken\": \"".toList

def templateEnd : List Char := "\"\x7d".toList

/-- `'{"authToken": "%s"}' % authtoken`. -/
def payloadStr (authtoken : Str) : Str :=
  .ofChars templateStart ++ authtoken ++ .ofChars templateEnd

/-- What a call of the amender returns; with `none` it raises. -/
def createStaticAuthtokenAmender (authtoken : Str) : Option MessageAmendment :=
  (encode (payloadStr authtoken)).map fun payload => { payload := some payload }

end IotCore.EventStream

import ODataClient.Response.Envelope

/-! # Response decoders
A decoder reads the untyped envelope of a response, or the error that the response reports. -/

namespace ODataClient

/-- A reader of responses. -/
abbrev ResponseDecoder := Response → Except Error (Envelope JsonValue)

namespace ResponseDecoder

/-- The decoder of JSON envelopes. -/
def standard : ResponseDecoder := Envelope.ofResponse

/-- The text of an envelope around the text of an array of records. -/
def wrapped (body : String) : String := "\x7b\"value\":" ++ body ++ "\x7d"

/-- A decoder that also takes a bare array of records for an envelope. -/
def acceptingArrays (decoder : ResponseDecoder) : ResponseDecoder := fun response =>
  if response.isSuccess && response.body.toList.head? == some '[' then
    decoder { response with body := wrapped response.body }
  else decoder response

end ResponseDecoder

end ODataClient

import HubSpoke.Json.Reader
import HubSpoke.Text.Utf8

/-!
# Reading JSON from octets

The two machines, the one that decodes octets and the one that reads JSON, run side by side, so a
long text is never spread out as a list.
-/

namespace HubSpoke.Json

/-- The reader after the symbols that octets spell. -/
def readOctets (octets : ByteArray) : Reader :=
  let (decoder, reader) := octets.foldl
    (fun (state : Utf8.Decoder × Reader) octet =>
      let (decoder, symbols) := state.1.step octet
      (decoder, symbols.foldl Reader.step state.2))
    ({}, Reader.start)
  decoder.rest.foldl Reader.step reader

/-- The value that octets spell. -/
def parseOctets? [FloatReading] (octets : ByteArray) : Option Json :=
  let reader := readOctets octets
  if reader.isDone then reader.outline.value? maxDepth else none

end HubSpoke.Json

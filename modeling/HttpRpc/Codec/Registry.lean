import HttpRpc.Codec.Basic
import HttpRpc.Text.Quoted

/-!
# Codec registries

A registry is a list of codecs, of which the first that serves is taken. `negotiate` finds a writer
for the first accepted media type that has one, and names the media type that it writes.
-/

namespace HttpRpc

/-- Codecs in the order in which they are tried. -/
structure CodecRegistry where
  codecs : List Codec

namespace CodecRegistry

/-- The registry of the built-in codecs, JSON before plain text. -/
def default : CodecRegistry := ⟨[.json false, .text]⟩

/-- Whether a codec is for the media type. -/
def supports (registry : CodecRegistry) (media : MediaType) : Bool :=
  registry.codecs.any fun codec => codec.supports media

/-- The first codec that reads values of the named type from the media type. -/
def readerFor? (registry : CodecRegistry) (typeName : String) (media : MediaType) : Option Codec :=
  registry.codecs.find? fun codec => codec.canRead typeName media

/-- The first codec that writes values of the named type as the media type. -/
def writerFor? (registry : CodecRegistry) (typeName : String) (media : MediaType) : Option Codec :=
  registry.codecs.find? fun codec => codec.canWrite typeName media

/-- The media type that a codec writes for an accepted one: the accepted one without parameters, or
that of the codec if the accepted one matches many. -/
def label (codec : Codec) (accepted : MediaType) : MediaType :=
  if accepted.isWildcard then codec.mediaType else accepted.withoutParams

/-- The writer for the first accepted media type that has one, and the media type it writes. -/
def negotiate? (registry : CodecRegistry) (typeName : String) :
    List MediaType → Option (Codec × MediaType)
  | [] => none
  | media :: rest =>
    match registry.writerFor? typeName media with
    | some codec => some (codec, label codec media)
    | none => registry.negotiate? typeName rest

/-- The writer for the first accepted media type that has one, or the error that there is none. -/
def negotiate (registry : CodecRegistry) (typeName : String) (accepted : List MediaType) :
    Except MediaError (Codec × MediaType) :=
  match registry.negotiate? typeName accepted with
  | some found => .ok found
  | none => .error (.noWriter typeName (MediaType.renderList accepted))

/-- The media types of the codecs, each once. -/
def readableMediaTypes (registry : CodecRegistry) : List MediaType :=
  (registry.codecs.map Codec.mediaType).eraseDups

/-- The list of media types that a client can read. -/
def acceptHeader (registry : CodecRegistry) : String :=
  MediaType.renderList registry.readableMediaTypes

/-- The names of the codecs in a list. -/
def describe (registry : CodecRegistry) : String :=
  Text.bracketed (registry.codecs.map fun codec => Text.quoted codec.name)

end CodecRegistry

end HttpRpc

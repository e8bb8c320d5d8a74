/-!
# Media errors

Why a body is not understood, or a result not expressed, in any of the media types at hand.
-/

namespace HttpRpc

/-- Why a media type does not serve. -/
inductive MediaError where
  | missingContentType
  | invalidMediaType (value : String)
  | unsupportedMediaType (mediaType : String)
  | noReader (typeName mediaType : String)
  | noWriter (typeName accepted : String)
deriving DecidableEq, Repr

/-- The wording of an error. -/
def MediaError.message : MediaError → String
  | missingContentType => "request has a body but no content type"
  | invalidMediaType value => "invalid media type \x60" ++ value ++ "\x60"
  | unsupportedMediaType mediaType => "unsupported media type \x60" ++ mediaType ++ "\x60"
  | noReader typeName mediaType =>
    "no codec can read \x60" ++ typeName ++ "\x60 from \x60" ++ mediaType ++ "\x60"
  | noWriter typeName accepted =>
    "no codec can write \x60" ++ typeName ++ "\x60 as any of \x60" ++ accepted ++ "\x60"

/-- The name of the kind of an error. -/
def MediaError.kind : MediaError → String
  | missingContentType => "MissingContentType"
  | invalidMediaType _ => "InvalidMediaType"
  | unsupportedMediaType _ => "UnsupportedMediaType"
  | noReader .. => "NoReader"
  | noWriter .. => "NoWriter"

end HttpRpc

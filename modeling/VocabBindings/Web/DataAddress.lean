import VocabBindings.Web.PercentEncoding

/-!
Addresses that hold what they lead to. Behind the scheme stands the media type of the data, and
behind a comma stand the data in percent encoding.
-/

set_option autoImplicit false

namespace VocabBindings.Web

structure Content where
  mediaType : Text
  bytes : Bytes
  deriving DecidableEq

def dataScheme : Text := "data".toList

/-- The mark of data that are written in base sixty-four, which are not read here. -/
def base64Mark : Text := ";base64".toList

/-- What an address holds, if it is one that holds its data. The parameters of the media type are
left out. -/
def contentOf? (address : Text) : Option Content :=
  let scheme := address.takeWhile (· ≠ ':')
  let rest := address.drop (scheme.length + 1)
  let mediaType := rest.takeWhile (· ≠ ',')
  if scheme.map Char.toLower ≠ dataScheme || !rest.contains ',' ||
      Text.endsWith base64Mark mediaType then none
  else
    some
      { mediaType := mediaType.takeWhile (· ≠ ';')
        bytes := decodedBytesFrom 0 (rest.drop (mediaType.length + 1)) }

end VocabBindings.Web

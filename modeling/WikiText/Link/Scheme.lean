import WikiText.Text.Reading

/-!
# Address schemes

The beginnings by which a word is known to be an address.
-/

namespace WikiText.Link

/-- The schemes of addresses, in small letters. -/
def schemes : List String := [
  "bitcoin:", "ftp://", "ftps://", "geo:", "git://", "gopher://", "http://", "https://", "irc://",
  "ircs://", "magnet:", "mailto:", "matrix:", "mms://", "news:", "nntp://", "redis://", "sftp://",
  "sip:", "sips:", "sms:", "ssh://", "svn://", "tel:", "telnet://", "urn:", "worldwind://",
  "xmpp:", "//"]

/-- Whether a word begins with a scheme. Capitals of the basic alphabet count as small letters. -/
def startsWithScheme (word : Text) : Bool :=
  schemes.any fun scheme => scheme.toList.isPrefixOf (word.map Char.toLower)

end WikiText.Link

/-!
# Markup errors

The causes for which a markup text is refused.  Positions are byte offsets: for attributes from the
start of the element name, for references from the start of the attribute value.
-/

namespace ProcessLaunch.Markup

inductive ReferenceError where
  | sign
  | noDigits
  | badDigit
  | tooLarge
  | zero
  | noCodePoint (value : Nat)
deriving DecidableEq, Repr

namespace ReferenceError

def message : ReferenceError → String
  | sign => "unexpected number sign"
  | noDigits => "cannot parse integer from empty string"
  | badDigit => "invalid digit found in string"
  | tooLarge => "number too large to fit in target type"
  | zero => "0x0 character is not permitted in XML"
  | noCodePoint value => s!"`{value}` is not a valid codepoint"

end ReferenceError

inductive EntityError where
  | unterminated (start length : Nat)
  | unknown (start stop : Nat) (name : String)
  | reference (cause : ReferenceError)
deriving DecidableEq, Repr

namespace EntityError

def message : EntityError → String
  | unterminated start length =>
      s!"Error while escaping character at range {start}..{length}: Cannot find ';' after '&'"
  | unknown start stop name => s!"at {start}..{stop}: unrecognized entity `{name}`"
  | reference cause => s!"invalid character reference: {cause.message}"

end EntityError

inductive AttributeError where
  | noEqualsSign (position : Nat)
  | noValue (position : Nat)
  | unquotedValue (position : Nat)
  | unclosedValue (position : Nat) (quote : Char)
deriving DecidableEq, Repr

namespace AttributeError

def message : AttributeError → String
  | noEqualsSign position =>
      s!"position {position}: attribute key must be directly followed by `=` or space"
  | noValue position => s!"position {position}: `=` must be followed by an attribute value"
  | unquotedValue position =>
      s!"position {position}: attribute value must be enclosed in `\"` or `'`"
  | unclosedValue position quote =>
      s!"position {position}: missing closing quote `{quote}` in attribute value"

end AttributeError

inductive Error where
  | unknownDeclaration
  | unclosedComment
  | unclosedCharacterData
  | unclosedDoctype
  | unclosedInstruction
  | unclosedTag
  | unnamedDoctype
  | otherEndTag (expected found : String)
  | strayEndTag (found : String)
  | badAttribute (cause : AttributeError)
  | badReference (cause : EntityError)
deriving DecidableEq, Repr

namespace Error

def message : Error → String
  | unknownDeclaration => "syntax error: unknown or missed symbol in markup"
  | unclosedComment => "syntax error: comment not closed: `-->` not found before end of input"
  | unclosedCharacterData => "syntax error: CDATA not closed: `]]>` not found before end of input"
  | unclosedDoctype => "syntax error: DOCTYPE not closed: `>` not found before end of input"
  | unclosedInstruction =>
      "syntax error: processing instruction or xml declaration not closed: " ++
        "`?>` not found before end of input"
  | unclosedTag => "syntax error: tag not closed: `>` not found before end of input"
  | unnamedDoctype =>
      "ill-formed document: `<!DOCTYPE>` declaration does not contain a name of a document type"
  | otherEndTag expected found =>
      s!"ill-formed document: expected `</{expected}>`, but `</{found}>` was found"
  | strayEndTag found =>
      s!"ill-formed document: close tag `</{found}>` does not match any open tag"
  | badAttribute cause => s!"error while parsing attribute: {cause.message}"
  | badReference cause => cause.message

end Error

end ProcessLaunch.Markup

import Federation.Saml.Assertion
import Federation.Text.Json

/-!
# Reporting an assertion

The JSON form in which an accepted assertion is shown. Parts that are missing are left out, and so
is the signature.
-/

namespace Federation.Saml

open Federation.Text

/-- The name of a protocol in the report. -/
def Protocol.reportName : Protocol → String
  | saml11 => "Saml11"
  | saml20 => "Saml20"

def Subject.report (s : Subject) : Json :=
  .object
    ([("identifier", .text s.identifier), ("format", .text s.format.name),
      ("confirmation_method", .text s.confirmationMethod)]
      ++ Json.optional "source_domain" .text s.sourceDomain
      ++ Json.optional "destination" .text s.destination)

def Validity.report (v : Validity) : Json :=
  .object [("not_before", .text v.notBefore.format),
    ("not_on_or_after", .text v.notOnOrAfter.format)]

def Assertion.report (a : Assertion) : Json :=
  .object
    ([("id", .text a.id), ("protocol", .text a.protocol.reportName),
      ("issue_instant", .text a.issueInstant.format)]
      ++ Json.optional "issuer" .text a.issuer
      ++ Json.optional "subject" Subject.report a.subject
      ++ Json.optional "validity" Validity.report a.validity
      ++ Json.optional "authn_context_class" .text a.authnContextClass
      ++ [("attributes", .list (a.attributes.map fun p => .list [.text p.1, .text p.2]))])

end Federation.Saml

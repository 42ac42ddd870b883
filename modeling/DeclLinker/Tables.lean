import DeclLinker.Dict
import DeclLinker.Repair.Table
import DeclLinker.Source.Reference

/-!
# The tables a pass works with

The built-in expressions for platform types, the files that declare well-known packages, the
structural rules, and the declarations written by hand.  Configuration may extend the first two and
sets the banner and the family prefixes.
-/

namespace DeclLinker

/-- Everything a pass looks up. -/
structure Tables where
  banner : Text
  families : List Text
  builtins : Dict Text Text
  packages : Dict Text Text
  rules : List Rule
  synthetic : Dict Text Text
  marker : Text
  deriving DecidableEq

namespace Tables

/-- A dictionary of texts from literals. -/
def spelled (pairs : List (String × String)) : Dict Text Text :=
  pairs.map fun (key, value) => (key.toList, value.toList)

/-- The line the generator writes into every file. -/
def defaultBanner : Text := "// Code generated by tygo. DO NOT EDIT.".toList

/-- The file name prefixes that are not part of a module tag. -/
def defaultFamilies : List Text := ["authcrunch-".toList, "caddy-".toList]

/-- Expressions for platform and third-party types that no generated file declares. -/
def defaultBuiltins : Dict Text Text :=
  spelled
    [("http.Header", "Record<string, string[]>"),
      ("http.Request", "unknown"),
      ("http.ResponseWriter", "unknown"),
      ("http.FileSystem", "unknown"),
      ("url.Values", "Record<string, string[]>"),
      ("url.URL", "string"),
      ("tls.ConnectionState", "unknown"),
      ("x509.PublicKeyAlgorithm", "number"),
      ("io.WriteCloser", "unknown"),
      ("io.Reader", "unknown"),
      ("io.Writer", "unknown"),
      ("fmt.Stringer", "unknown"),
      ("template.FuncMap", "Record<string, unknown>"),
      ("xml.Name", "string"),
      ("netip.AddrPort", "string"),
      ("net.IP", "string"),
      ("acme.EAB", "\x7b kid?: string; hmacEncoded?: string \x7d"),
      ("libdns.RecordGetter", "unknown"),
      ("libdns.RecordSetter", "unknown"),
      ("zap.Logger", "unknown"),
      ("context.Context", "unknown"),
      ("sync.RWMutex", "unknown"),
      ("time.Time", "string"),
      ("time.Duration", "number | string"),
      ("regexp.Regexp", "string"),
      ("json.RawMessage", "unknown")]

/-- The files that declare the types of well-known packages. -/
def defaultPackages : Dict Text Text :=
  spelled
    [("ui", "authcrunch-ui.ts"),
      ("cookie", "authcrunch-cookie.ts"),
      ("icons", "authcrunch-icons.ts"),
      ("acl", "authcrunch-acl.ts"),
      ("kms", "authcrunch-kms.ts"),
      ("credentials", "authcrunch-credentials.ts"),
      ("authn", "authcrunch-authn.ts"),
      ("authz", "authcrunch-authz.ts"),
      ("ids", "authcrunch-ids.ts"),
      ("idp", "authcrunch-idp.ts"),
      ("sso", "authcrunch-sso.ts"),
      ("oauth", "authcrunch-oauth.ts"),
      ("saml", "authcrunch-saml.ts"),
      ("transformer", "authcrunch-transformer.ts"),
      ("options", "authcrunch-options.ts"),
      ("redirects", "authcrunch-redirects.ts"),
      ("bypass", "authcrunch-bypass.ts"),
      ("injector", "authcrunch-injector.ts"),
      ("authproxy", "authcrunch-authproxy.ts"),
      ("registry", "authcrunch-registry.ts"),
      ("messaging", "authcrunch-messaging.ts"),
      ("authcrunch", "authcrunch-core.ts"),
      ("caddy", "caddy-core.ts"),
      ("caddyhttp", "caddy-http.ts"),
      ("caddytls", "caddy-tls.ts"),
      ("reverseproxy", "caddy-reverseproxy.ts"),
      ("fileserver", "caddy-fileserver.ts"),
      ("encode", "caddy-encode.ts"),
      ("headers", "caddy-headers.ts"),
      ("rewrite", "caddy-rewrite.ts"),
      ("templates", "caddy-templates.ts")]

/-- The words that mark a file whose hand-written declarations are already there. -/
def defaultMarker : Text := "// Unexported Go types".toList

/-- The declarations of one module that the generator leaves out. -/
def missingDeclarations : Text :=
  ['\n'].intercalate
    ["".toList,
      defaultMarker ++ " (approximated from Caddy source)".toList,
      "export interface substrReplacer \x7b".toList,
      "  find?: string;".toList,
      "  replace?: string;".toList,
      "  limit?: number;".toList,
      "\x7d".toList,
      "".toList,
      "export interface regexReplacer \x7b".toList,
      "  find?: string;".toList,
      "  replace?: string;".toList,
      "\x7d".toList,
      "".toList,
      "export interface queryOps \x7b".toList,
      "  delete?: string[];".toList,
      "  set?: Record<string, string>;".toList,
      "  add?: Record<string, string[]>;".toList,
      "  replace?: Record<string, string[]>;".toList,
      "  rename?: \x7b key: string; val: string \x7d[];".toList,
      "\x7d".toList,
      "".toList]

/-- The tables with the given banner and families and with extensions of the built-in entries. -/
def extended (banner : Text) (families : List Text) (builtins packages : Dict Text Text) :
    Tables :=
  { banner
    families
    builtins := defaultBuiltins.putAll builtins
    packages := defaultPackages.putAll packages
    rules := Rule.builtin
    synthetic := [("caddy-rewrite.ts".toList, missingDeclarations)]
    marker := defaultMarker }

/-- The tables without configuration. -/
def default : Tables :=
  extended defaultBanner defaultFamilies [] []

/-- The expression for a reference: by its qualified name, then by its short one.  An empty
expression counts as none. -/
def expression? (tables : Tables) (reference : Reference) : Option Text :=
  [reference.qualified, reference.shortQualified].findSome? fun key =>
    match Dict.get? key tables.builtins with
    | some expression => if expression.isEmpty then none else some expression
    | none => none

end Tables

end DeclLinker

import Bnl.Base.Types

/-!
# `qpack::table::fixed`, the decoder's half

What kind of line a byte begins, and what the indices of the static table stand for.

The file this models is written by `generate_qpack.py`. Its two switches are lists of cases here, in the order
of the source, searched from the front; an index that is in none of them is not found. Names and values are kept
as strings, for the reader to compare, and become bytes where they are looked up.
-/

namespace Bnl.Http3.Qpack.Table.Fixed

/-- `type`, as the decoder knows it. -/
inductive LineType where
  | headerValue
  | headerOnly
  | missing
  | unknown
  deriving DecidableEq, Repr

/-- The bit of a line that is an index. -/
def indexedHeaderFieldPrefix : UInt8 := 0x80
/-- The bit of a line with an index for the name. -/
def literalWithNameReferencePrefix : UInt8 := 0x40
/-- The bit of a line with a literal name. -/
def literalWithoutNameReferencePrefix : UInt8 := 0x20

/-- `find_type`. -/
def findType (byte : UInt8) : LineType :=
  if byte &&& indexedHeaderFieldPrefix = indexedHeaderFieldPrefix then .headerValue
  else if byte &&& literalWithNameReferencePrefix = literalWithNameReferencePrefix then .headerOnly
  else if byte &&& literalWithoutNameReferencePrefix = literalWithoutNameReferencePrefix then
    .missing
  else .unknown

/-- The cases of `find_header_value`. -/
def headerValues : List (UInt8 × String × String) := [
  (15, ":method", "CONNECT"),
  (16, ":method", "DELETE"),
  (17, ":method", "GET"),
  (18, ":method", "HEAD"),
  (19, ":method", "OPTIONS"),
  (20, ":method", "POST"),
  (21, ":method", "PUT"),
  (1, ":path", "/"),
  (22, ":scheme", "http"),
  (23, ":scheme", "https"),
  (24, ":status", "103"),
  (25, ":status", "200"),
  (26, ":status", "304"),
  (27, ":status", "404"),
  (28, ":status", "503"),
  (63, ":status", "100"),
  (64, ":status", "204"),
  (65, ":status", "206"),
  (66, ":status", "302"),
  (67, ":status", "400"),
  (68, ":status", "403"),
  (69, ":status", "421"),
  (70, ":status", "425"),
  (71, ":status", "500"),
  (29, "accept", "*/*"),
  (30, "accept", "application/dns-message"),
  (31, "accept-encoding", "gzip, deflate, br"),
  (32, "accept-ranges", "bytes"),
  (73, "access-control-allow-credentials", "FALSE"),
  (74, "access-control-allow-credentials", "TRUE"),
  (33, "access-control-allow-headers", "cache-control"),
  (34, "access-control-allow-headers", "content-type"),
  (75, "access-control-allow-headers", "*"),
  (76, "access-control-allow-methods", "get"),
  (77, "access-control-allow-methods", "get, post, options"),
  (78, "access-control-allow-methods", "options"),
  (35, "access-control-allow-origin", "*"),
  (79, "access-control-expose-headers", "content-length"),
  (80, "access-control-request-headers", "content-type"),
  (81, "access-control-request-method", "get"),
  (82, "access-control-request-method", "post"),
  (2, "age", "0"),
  (83, "alt-svc", "clear"),
  (36, "cache-control", "max-age=0"),
  (37, "cache-control", "max-age=2592000"),
  (38, "cache-control", "max-age=604800"),
  (39, "cache-control", "no-cache"),
  (40, "cache-control", "no-store"),
  (41, "cache-control", "public, max-age=31536000"),
  (42, "content-encoding", "br"),
  (43, "content-encoding", "gzip"),
  (4, "content-length", "0"),
  (85, "content-security-policy", "script-src 'none'; object-src 'none'; base-uri 'none'"),
  (44, "content-type", "application/dns-message"),
  (45, "content-type", "application/javascript"),
  (46, "content-type", "application/json"),
  (47, "content-type", "application/x-www-form-urlencoded"),
  (48, "content-type", "image/gif"),
  (49, "content-type", "image/jpeg"),
  (50, "content-type", "image/png"),
  (51, "content-type", "text/css"),
  (52, "content-type", "text/html; charset=utf-8"),
  (53, "content-type", "text/plain"),
  (54, "content-type", "text/plain;charset=utf-8"),
  (86, "early-data", "1"),
  (91, "purpose", "prefetch"),
  (55, "range", "bytes=0-"),
  (56, "strict-transport-security", "max-age=31536000"),
  (57, "strict-transport-security", "max-age=31536000; includesubdomains"),
  (58, "strict-transport-security", "max-age=31536000; includesubdomains; preload"),
  (93, "timing-allow-origin", "*"),
  (94, "upgrade-insecure-requests", "1"),
  (59, "vary", "accept-encoding"),
  (60, "vary", "origin"),
  (61, "x-content-type-options", "nosniff"),
  (97, "x-frame-options", "deny"),
  (98, "x-frame-options", "sameorigin"),
  (62, "x-xss-protection", "1; mode=block")]

/-- The cases of `find_header_only`. -/
def headerNames : List (UInt8 × String) := [
  (0, ":authority"), (15, ":method"), (16, ":method"), (17, ":method"), (18, ":method"),
  (19, ":method"), (20, ":method"), (21, ":method"), (1, ":path"), (22, ":scheme"),
  (23, ":scheme"), (24, ":status"), (25, ":status"), (26, ":status"), (27, ":status"),
  (28, ":status"), (63, ":status"), (64, ":status"), (65, ":status"), (66, ":status"),
  (67, ":status"), (68, ":status"), (69, ":status"), (70, ":status"), (71, ":status"),
  (29, "accept"), (30, "accept"), (31, "accept-encoding"), (72, "accept-language"),
  (32, "accept-ranges"), (73, "access-control-allow-credentials"),
  (74, "access-control-allow-credentials"), (33, "access-control-allow-headers"),
  (34, "access-control-allow-headers"), (75, "access-control-allow-headers"),
  (76, "access-control-allow-methods"), (77, "access-control-allow-methods"),
  (78, "access-control-allow-methods"), (35, "access-control-allow-origin"),
  (79, "access-control-expose-headers"), (80, "access-control-request-headers"),
  (81, "access-control-request-method"), (82, "access-control-request-method"), (2, "age"),
  (83, "alt-svc"), (84, "authorization"), (36, "cache-control"), (37, "cache-control"),
  (38, "cache-control"), (39, "cache-control"), (40, "cache-control"), (41, "cache-control"),
  (3, "content-disposition"), (42, "content-encoding"), (43, "content-encoding"),
  (4, "content-length"), (85, "content-security-policy"), (44, "content-type"),
  (45, "content-type"), (46, "content-type"), (47, "content-type"), (48, "content-type"),
  (49, "content-type"), (50, "content-type"), (51, "content-type"), (52, "content-type"),
  (53, "content-type"), (54, "content-type"), (5, "cookie"), (6, "date"), (86, "early-data"),
  (7, "etag"), (87, "expect-ct"), (88, "forwarded"), (8, "if-modified-since"),
  (9, "if-none-match"), (89, "if-range"), (10, "last-modified"), (11, "link"), (12, "location"),
  (90, "origin"), (91, "purpose"), (55, "range"), (13, "referer"), (92, "server"),
  (14, "set-cookie"), (56, "strict-transport-security"), (57, "strict-transport-security"),
  (58, "strict-transport-security"), (93, "timing-allow-origin"),
  (94, "upgrade-insecure-requests"), (95, "user-agent"), (59, "vary"), (60, "vary"),
  (61, "x-content-type-options"), (96, "x-forwarded-for"), (97, "x-frame-options"),
  (98, "x-frame-options"), (62, "x-xss-protection")]

/-- `find_header_value`; `none` where the source returns `false`. -/
def findHeaderValue (index : UInt8) : Option Header :=
  (headerValues.find? fun c => c.1 == index).map fun c => ⟨ascii c.2.1, ascii c.2.2⟩

/-- `find_header_only`; `none` where the source returns `false`. -/
def findHeaderOnly (index : UInt8) : Option (List UInt8) :=
  (headerNames.find? fun c => c.1 == index).map fun c => ascii c.2

end Bnl.Http3.Qpack.Table.Fixed

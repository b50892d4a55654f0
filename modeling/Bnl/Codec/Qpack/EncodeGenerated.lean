import Bnl.Base.Types

/-!
# `qpack::table::fixed`, the encoder's half

`find_index` switches over the hash of the name, and below that over the hash of the value. The strings behind
the hashes are comments in the source, and here.

No string is ever compared: a name whose hash is that of a name of the table is taken for it. The file this
models is written by `generate_qpack.py` from the table of the standard, and the model of that script finds the
same cases.
-/

namespace Bnl.Http3.Qpack.Table.Fixed

/-- `type`, as the encoder knows it. -/
inductive IndexType where
  | headerValue
  | headerOnly
  | missing
  deriving DecidableEq, Repr

/-- One case of the outer switch: the cases of the switch below it, and what is returned behind
that. -/
structure NameCase where
  nameHash : UInt64
  values : List (UInt64 × UInt8)
  only : UInt8

/-- The cases of `find_index`, in the order of the source. -/
def nameCases : List NameCase := [
  -- :authority
  ⟨16895098521482341206, [], 0⟩,
  -- :method
  ⟨11800921616074793521, [
    (1969084168692057419, 15), -- CONNECT
    (3416820684017772195, 16), -- DELETE
    (3137017853320178759, 17), -- GET
    (5077457392360958184, 18), -- HEAD
    (13449464674369688059, 19), -- OPTIONS
    (1393561109570896241, 20), -- POST
    (8278045464579020327, 21)], -- PUT
   15⟩,
  -- :path
  ⟨1432527143127418564, [
    (16761507700594825962, 1)], -- /
   1⟩,
  -- :scheme
  ⟨16734001141632695329, [
    (13730016396111666430, 22), -- http
    (10742537861312705840, 23)], -- https
   22⟩,
  -- :status
  ⟨11145724770861396798, [
    (2891813017576360282, 24), -- 103
    (2685111111418367100, 25), -- 200
    (2860949800888200221, 26), -- 304
    (5957985645556640011, 27), -- 404
    (12373623763172808772, 28), -- 503
    (6146904730557115430, 63), -- 100
    (11759795502426644276, 64), -- 204
    (17033585193496081404, 65), -- 206
    (1337354901647857481, 66), -- 302
    (11111781720710347155, 67), -- 400
    (14993518005534636743, 68), -- 403
    (1128097706726417269, 69), -- 421
    (17924379407345689140, 70), -- 425
    (12667669577372699657, 71)], -- 500
   24⟩,
  -- accept
  ⟨14776963886974432617, [
    (285960807216420690, 29), -- */*
    (6373961066247414572, 30)], -- application/dns-message
   29⟩,
  -- accept-encoding
  ⟨14455144075924042224, [
    (9032900040511447184, 31)], -- gzip, deflate, br
   31⟩,
  -- accept-language
  ⟨12586352021634702904, [], 72⟩,
  -- accept-ranges
  ⟨14590555536192441974, [
    (3279652670845457604, 32)], -- bytes
   32⟩,
  -- access-control-allow-credentials
  ⟨5881923794129529227, [
    (13702020392090633634, 73), -- FALSE
    (13992295306875567947, 74)], -- TRUE
   73⟩,
  -- access-control-allow-headers
  ⟨3800686319607884068, [
    (6792126209451122079, 33), -- cache-control
    (3910122139284074053, 34), -- content-type
    (765293966243412708, 75)], -- *
   33⟩,
  -- access-control-allow-methods
  ⟨10756748986426057606, [
    (2774841317834080824, 76), -- get
    (13368036589511723433, 77), -- get, post, options
    (16398749137410613924, 78)], -- options
   76⟩,
  -- access-control-allow-origin
  ⟨9436417403599124064, [
    (765293966243412708, 35)], -- *
   35⟩,
  -- access-control-expose-headers
  ⟨6796384088407939286, [
    (17031230962583399322, 79)], -- content-length
   79⟩,
  -- access-control-request-headers
  ⟨4242818872217734295, [
    (3910122139284074053, 80)], -- content-type
   80⟩,
  -- access-control-request-method
  ⟨14051338931492133901, [
    (2774841317834080824, 81), -- get
    (3178169103122520677, 82)], -- post
   81⟩,
  -- age
  ⟨5092756294692198100, [
    (7148434200721666028, 2)], -- 0
   2⟩,
  -- alt-svc
  ⟨12092656254601729054, [
    (9623284816163994036, 83)], -- clear
   83⟩,
  -- authorization
  ⟨8846816503791876372, [], 84⟩,
  -- cache-control
  ⟨6792126209451122079, [
    (10032073942971583664, 36), -- max-age=0
    (3044507098168884424, 37), -- max-age=2592000
    (441477139842840241, 38), -- max-age=604800
    (8897988708233174624, 39), -- no-cache
    (3660001317594812985, 40), -- no-store
    (9509473917879564042, 41)], -- public, max-age=31536000
   36⟩,
  -- content-disposition
  ⟨17156266451297603303, [], 3⟩,
  -- content-encoding
  ⟨11860813331948357247, [
    (12202383188974104177, 42), -- br
    (12621183860903199653, 43)], -- gzip
   42⟩,
  -- content-length
  ⟨17031230962583399322, [
    (7148434200721666028, 4)], -- 0
   4⟩,
  -- content-security-policy
  ⟨18043880115709070015, [
    (165232284275397264, 85)], -- script-src 'none'; object-src 'none'; base-uri 'none'
   85⟩,
  -- content-type
  ⟨3910122139284074053, [
    (6373961066247414572, 44), -- application/dns-message
    (9423039217905102597, 45), -- application/javascript
    (116355269824119741, 46), -- application/json
    (15711274223642436716, 47), -- application/x-www-form-urlencoded
    (12727226202374957143, 48), -- image/gif
    (12200045138720289141, 49), -- image/jpeg
    (12092489581388341001, 50), -- image/png
    (6791077934204364231, 51), -- text/css
    (8886412932112875563, 52), -- text/html; charset=utf-8
    (16588200704567877914, 53), -- text/plain
    (9119350762400467667, 54)], -- text/plain;charset=utf-8
   44⟩,
  -- cookie
  ⟨905780767293800022, [], 5⟩,
  -- date
  ⟨9202271988582577219, [], 6⟩,
  -- early-data
  ⟨12326157660028381149, [
    (13237225503670494420, 86)], -- 1
   86⟩,
  -- etag
  ⟨6439525432329186999, [], 7⟩,
  -- expect-ct
  ⟨9568944059520352163, [], 87⟩,
  -- forwarded
  ⟨5644212460638603090, [], 88⟩,
  -- if-modified-since
  ⟨12678664253902784264, [], 8⟩,
  -- if-none-match
  ⟨8836338662272140136, [], 9⟩,
  -- if-range
  ⟨10086758965902305572, [], 89⟩,
  -- last-modified
  ⟨5803729767262815818, [], 10⟩,
  -- link
  ⟨17841021884467483934, [], 11⟩,
  -- location
  ⟨14592406158319853782, [], 12⟩,
  -- origin
  ⟨7034821444952201446, [], 90⟩,
  -- purpose
  ⟨4274379369960325767, [
    (15048569516378897441, 91)], -- prefetch
   91⟩,
  -- range
  ⟨12715602975004390753, [
    (6181996873389341388, 55)], -- bytes=0-
   55⟩,
  -- referer
  ⟨14154313121195327909, [], 13⟩,
  -- server
  ⟨16290507850670895904, [], 92⟩,
  -- set-cookie
  ⟨666465872145128107, [], 14⟩,
  -- strict-transport-security
  ⟨4179674550753269761, [
    (13034728143243030830, 56), -- max-age=31536000
    (11632417432576482556, 57), -- max-age=31536000; includesubdomains
    (16736049223785386895, 58)], -- max-age=31536000; includesubdomains; preload
   56⟩,
  -- timing-allow-origin
  ⟨5374862646944647126, [
    (765293966243412708, 93)], -- *
   93⟩,
  -- upgrade-insecure-requests
  ⟨18069291607417813553, [
    (13237225503670494420, 94)], -- 1
   94⟩,
  -- user-agent
  ⟨16625730634708209664, [], 95⟩,
  -- vary
  ⟨8816542506507529547, [
    (14455144075924042224, 59), -- accept-encoding
    (7034821444952201446, 60)], -- origin
   59⟩,
  -- x-content-type-options
  ⟨6196956168349306122, [
    (4306527442339074562, 61)], -- nosniff
   61⟩,
  -- x-forwarded-for
  ⟨1042837635865018085, [], 96⟩,
  -- x-frame-options
  ⟨8598773544412918900, [
    (6492545016868164575, 97), -- deny
    (13303836962186157521, 98)], -- sameorigin
   97⟩,
  -- x-xss-protection
  ⟨15732293358711069708, [
    (7412498726110841680, 62)], -- 1; mode=block
   62⟩]

/-- `find_index`. -/
def findIndex (xxh64 : List UInt8 → UInt64) (header : Header) : IndexType × UInt8 :=
  match nameCases.find? fun c => c.nameHash == xxh64 header.name with
  | none => (.missing, 0)
  | some c =>
    match c.values.find? fun v => v.1 == xxh64 header.value with
    | some v => (.headerValue, v.2)
    | none => (.headerOnly, c.only)

end Bnl.Http3.Qpack.Table.Fixed

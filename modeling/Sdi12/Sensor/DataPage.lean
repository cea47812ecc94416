import Sdi12.Sensor.Context

namespace Sdi12.Sensor

/-! # ASCII data pages (`format_data_page`)

`format_data_page` walks the data cache, renders each value with `format_value`, and
copies into the requested page the values that belong to it.  The page counter only moves
when a value does not fit on the page being written, and only the requested page is ever
written, so the walk is modelled exactly as the loop runs: `pageLoop` carries the page
counter, the value bytes of the page written so far (`pos - 1` of them) and `any_on_page`.
-/

/-- The bytes `memcpy(buf + pos, vbuf, vlen)` copies.  `vbuf` holds the text of
`format_value` cut to `SDI12_VALUE_MAX_CHARS` bytes and NUL-terminated, while `vlen` is the
length of the whole text; past the ten bytes of `vbuf` the copy reads outside it, which the
model reads as NUL bytes (no byte after a NUL of a text response reaches the bus). -/
def vbufCopy (text : List Char) : List Char :=
  (text.take valueMaxChars ++ ['\x00']).take text.length ++
    List.replicate (text.length - (valueMaxChars + 1)) '\x00'

/-- The `while (i < ctx->data_cache_count)` loop of `format_data_page`. -/
def pageLoop (formatValue : Value → List Char) (page maxValueChars : Nat) :
    List Value → Nat → List Char → Bool → List Char × Bool
  | [], _, written, anyOnPage => (written, anyOnPage)
  | value :: rest, currentPage, written, anyOnPage =>
    let text := formatValue value
    if text.length = 0 then pageLoop formatValue page maxValueChars rest currentPage written anyOnPage
    else
      let newPage := decide (written.length + text.length > maxValueChars) && decide (0 < written.length)
      let currentPage := if newPage then currentPage + 1 else currentPage
      let written := if newPage then [] else written
      if currentPage = page then
        if maxResponseLen - 6 ≤ 1 + written.length + text.length then (written, anyOnPage)
        else pageLoop formatValue page maxValueChars rest currentPage (written ++ vbufCopy text) true
      else if page < currentPage then (written, anyOnPage)
      else pageLoop formatValue page maxValueChars rest currentPage written anyOnPage

/-- The address and the value bytes `format_data_page` leaves before its `buf[pos] = '\0'`. -/
def pageContent (formatValue : Value → List Char) (ctx : Ctx) (page maxValueChars : Nat) :
    List Char :=
  let (written, anyOnPage) := pageLoop formatValue page maxValueChars ctx.dataCache 0 [] false
  if !anyOnPage && 0 < page then [ctx.address] else ctx.address :: written

/-- `format_data_page`: the page content, then the CRC when it was requested, then CR LF. -/
def formatDataPage (env : Env) (ctx : Ctx) (page maxValueChars : Nat) : Ctx :=
  let content := pageContent env.formatValue ctx page maxValueChars
  let buf :=
    if ctx.crcRequested then (crcAppend content maxResponseLen).2
    else if content.length + 2 < maxResponseLen then content ++ crlf else content
  { ctx with respBuf := buf }

@[simp] theorem formatDataPage_respLen (env : Env) (ctx : Ctx) (page maxValueChars : Nat) :
    (formatDataPage env ctx page maxValueChars).respLen = ctx.respLen := rfl

end Sdi12.Sensor

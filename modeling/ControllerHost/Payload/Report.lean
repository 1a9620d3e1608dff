import ControllerHost.Payload.Basic
import ControllerHost.Single.Shortest
import ControllerHost.Text.Utf8

/-!
# Payloads in the log

The log shows a payload's buffers as texts up to their first NUL. Of a shipped file it shows the
length only, never the contents.

- `Payload.shownText`: a text buffer as the log shows it.
- `Payload.report`: the seven lines.
-/

namespace ControllerHost.Payload

/-- The text of a buffer up to its first NUL. -/
def shownText (buffer : Bytes) : String := Utf8.lossy (Bytes.untilNul buffer)

/-- The swap array as a bracketed list of shortest decimals. -/
def shownSwap (swap : List Single) : String :=
  "[" ++ ", ".intercalate (swap.map Single.text) ++ "]"

/-- The lines that the log shows for a payload. -/
def report (payload : Payload) : String :=
  "\n".intercalate
    [ "avrSWAP:    " ++ shownSwap payload.call.swap,
      "aviFAIL:    " ++ toString payload.call.fail.toInt,
      "accINFILE:  '" ++ shownText payload.call.inFile ++ "'",
      "avcOUTNAME: '" ++ shownText payload.call.outName ++ "'",
      "avcMSG:     '" ++ shownText payload.call.msg ++ "'",
      "ServerFilePath: '" ++ shownText payload.serverFilePath ++ "'",
      "FileContent: [" ++ toString payload.fileContent.length ++ " bytes]" ]

end ControllerHost.Payload

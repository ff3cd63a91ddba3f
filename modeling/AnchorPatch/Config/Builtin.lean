import AnchorPatch.Config.Validation

namespace AnchorPatch.Builtin

/-- Some lines, each with a line end. -/
def lines (ls : List String) : Text := ls.flatMap fun l => l.toList ++ ['\n']

/-- The state of the preview is declared next to the flag of the drawer. -/
def previewState : RuleSpec where
  id := "preview-state".toList
  description := some "Declare rpUrl, rpLoading and rpError after rpOpen".toList
  unlessPresent := some
    "const [rpUrl, setRpUrl] = useState(null);".toList
  text := lines
    ["  const [rpUrl, setRpUrl] = useState(null);",
     "  const [rpLoading, setRpLoading] = useState(false);",
     "  const [rpError, setRpError] = useState(null);"]
  primary :=
    { kind := .regex
      pattern :=
        "const\\s+\\[rpOpen,\\s*setRpOpen\\]\\s*=\\s*useState\\(false\\);[ \\t]*(?:\\r?\\n)?".toList }

/-- The builder of preview URLs goes behind `buildUrl`. -/
def previewUrlHelper : RuleSpec where
  id := "preview-url-helper".toList
  description := some "Add buildPreviewUrl after the buildUrl helper".toList
  unlessPresent := some
    "function buildPreviewUrl(".toList
  text := lines
    ["  function buildPreviewUrl(unitId, ym) \x7b",
     "    const usp = new URLSearchParams(\x7b unitId: String(unitId), yearMonth: ym \x7d);",
     "    return `$\x7bAPI_BASE\x7d/api/reports/preview?$\x7busp.toString()\x7d`;",
     "  \x7d"]
  primary :=
    { kind := .regex
      pattern :=
        "(?s)function\\s+buildUrl\\(base,\\s*params\\)\\s*\\\x7b.*?\\n[ \\t]*\\\x7d[ \\t]*\\r?\\n".toList }

/-- Handlers that fetch the preview take the place of those that open and close the drawer. Older
documents have the one-line handler for closing only. -/
def previewFetchHandlers : RuleSpec where
  id := "preview-fetch-handlers".toList
  description := some "Replace the drawer open/close handlers with fetchPreviewPdf and blob-aware wrappers".toList
  unlessPresent := some
    "async function fetchPreviewPdf()".toList
  text := lines
    ["async function fetchPreviewPdf() \x7b",
     "    if (!selectedUnit?.unitId || !yearMonth) return;",
     "    setRpLoading(true);",
     "    setRpError(null);",
     "    try \x7b",
     "      const url = buildPreviewUrl(selectedUnit.unitId, yearMonth);",
     "      const resp = await fetch(url, \x7b headers: \x7b Accept: 'application/pdf', ...AUTH_HEADERS \x7d \x7d);",
     "      if (!resp.ok) throw new Error(`preview $\x7bresp.status\x7d`);",
     "      const blob = await resp.blob();",
     "      const objectUrl = URL.createObjectURL(blob);",
     "      if (rpUrl) URL.revokeObjectURL(rpUrl);",
     "      setRpUrl(objectUrl);",
     "    \x7d catch (e) \x7b",
     "      console.error('preview fetch error', e);",
     "      setRpError(e.message || 'Failed to load preview');",
     "      if (rpUrl) \x7b URL.revokeObjectURL(rpUrl); setRpUrl(null); \x7d",
     "    \x7d finally \x7b",
     "      setRpLoading(false);",
     "    \x7d",
     "  \x7d",
     "",
     "  const openReportPreviewDrawer = async () => \x7b",
     "    if (!selectedUnit?.unitId || !yearMonth) return;",
     "    setRpOpen(true);",
     "    await fetchPreviewPdf();",
     "  \x7d;",
     "",
     "  const closeReportPreviewDrawer = () => \x7b",
     "    setRpOpen(false);",
     "    if (rpUrl) \x7b",
     "      URL.revokeObjectURL(rpUrl);",
     "      setRpUrl(null);",
     "    \x7d"]
  ++ "  \x7d;".toList
  primary :=
    { kind := .regex
      pattern :=
        "const\\s+openReportPreviewDrawer\\s*=\\s*\\(\\)\\s*=>\\s*\\\x7b[^\x7d]*\\\x7d\\s*;\\s*const\\s+closeReportPreviewDrawer\\s*=\\s*\\(\\)\\s*=>\\s*[^;]*;".toList
      placement := .replace }
  fallback := some
    { kind := .text
      pattern :=
        "const closeReportPreviewDrawer = () => setRpOpen(false);".toList
      separator := some "\n\n  ".toList }

/-- Effects that fetch again when the inputs change, and that release the URLs, go behind the
handlers. -/
def previewEffects : RuleSpec where
  id := "preview-effects".toList
  description := some "Add refresh and blob cleanup effects after closeReportPreviewDrawer".toList
  unlessPresent := some
    "useEffect(() => () => \x7b if (rpUrl) URL.revokeObjectURL(rpUrl); \x7d, [rpUrl]);".toList
  text := lines
    ["",
     "  useEffect(() => \x7b",
     "    if (rpOpen) \x7b fetchPreviewPdf(); \x7d",
     "    // eslint-disable-next-line react-hooks/exhaustive-deps",
     "  \x7d, [selectedUnit?.unitId, yearMonth]);",
     "",
     "  useEffect(() => () => \x7b if (rpUrl) URL.revokeObjectURL(rpUrl); \x7d, [rpUrl]);"]
  primary :=
    { kind := .regex
      pattern :=
        "(?s)const\\s+closeReportPreviewDrawer\\s*=\\s*\\(\\)\\s*=>\\s*\\\x7b.*?\\\x7d\\s*;[ \\t]*(?:\\r?\\n)?".toList }

/-- The frame shows a loader, an error or the fetched preview instead of asking the server itself.
-/
def previewIframe : RuleSpec where
  id := "preview-iframe".toList
  description := some "Render loading, error or the blob URL iframe from rpLoading, rpError and rpUrl".toList
  unlessPresent := some
    "src=\x7brpUrl\x7d".toList
  text := lines
    ["<>",
     "                \x7brpLoading && (",
     "                  <div style=\x7b\x7b color:'#666', fontSize: 14, padding: 16 \x7d\x7d>Loading preview…</div>",
     "                )\x7d",
     "                \x7brpError && !rpLoading && (",
     "                  <div style=\x7b\x7b color:'crimson', fontSize: 14, padding: 16 \x7d\x7d>Error: \x7brpError\x7d</div>",
     "                )\x7d",
     "                \x7b!rpLoading && !rpError && rpUrl && (",
     "                  <iframe",
     "                    src=\x7brpUrl\x7d",
     "                    title=\"Owner Report Preview\"",
     "                    style=\x7b\x7b width: '100%', height: '100%', border: 0 \x7d\x7d",
     "                  />",
     "                )\x7d"]
  ++ "              </>".toList
  primary :=
    { kind := .regex
      pattern :=
        "<iframe\\s+[^>]*src=\\\x7b\\s*`\\$\\\x7bAPI_BASE\\\x7d/api/reports/preview\\?unitId=\\$\\\x7bselectedUnit\\.unitId\\\x7d&yearMonth=\\$\\\x7byearMonth\\\x7d`\\s*\\\x7d[^>]*/>".toList
      placement := .replace }

end AnchorPatch.Builtin

namespace AnchorPatch

def Config.builtin : Config where
  info :=
    { name := "client-report-preview".toList
      description := some "Blob-backed report preview for ClientMonthlyReport".toList
      target := "frontend/src/components/reports/ClientMonthlyReport.jsx".toList
      backupSuffix := ".bak".toList }
  rules :=
    [Builtin.previewState, Builtin.previewUrlHelper, Builtin.previewFetchHandlers,
     Builtin.previewEffects, Builtin.previewIframe]

end AnchorPatch

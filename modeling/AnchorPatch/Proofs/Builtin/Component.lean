import AnchorPatch.Proofs.Builtin.Patterns
import AnchorPatch.Proofs.Rule.Within

/-!
A report component, and what the built-in rules make of it.

Main statement: each rule takes the component from one stage of the patch to the next, and finds its
place without reading the end of the text.
-/

namespace AnchorPatch.Builtin

open Regex

theorem suffix_flatMap {α : Type} {f : α → Text} {l : List α} (hf : ∀ a, ['\n'] <:+ f a)
    (hl : l ≠ []) : ['\n'] <:+ l.flatMap f := by
  rw [← List.dropLast_concat_getLast hl, List.flatMap_append, List.flatMap_singleton]
  exact List.suffix_append_of_suffix (hf _)

theorem lines_suffix {ls : List String} (hls : ls ≠ []) : ['\n'] <:+ lines ls :=
  suffix_flatMap (fun _ => List.suffix_append _ _) hls

/-- A report component as it was written, line by line. -/
def component : List String :=
  ["import React, \x7b useEffect, useMemo, useState \x7d from 'react';",
   "import \x7b API_BASE, AUTH_HEADERS \x7d from '../../api/config';",
   "import AppDrawer from '../common/AppDrawer';",
   "",
   "export default function ClientMonthlyReport(\x7b units = [] \x7d) \x7b",
   "  const [selectedUnit, setSelectedUnit] = useState(null);",
   "  const [yearMonth, setYearMonth] = useState('');",
   "  const [rpOpen, setRpOpen] = useState(false);",
   "",
   "  function buildUrl(base, params) \x7b",
   "    const usp = new URLSearchParams(params);",
   "    return `$\x7bbase\x7d?$\x7busp.toString()\x7d`;",
   "  \x7d",
   "",
   "  const unitOptions = useMemo(",
   "    () => units.map((u) => (\x7b value: u.unitId, label: u.name \x7d)),",
   "    [units]",
   "  );",
   "",
   "  const openReportPreviewDrawer = () => \x7b",
   "    if (!selectedUnit?.unitId || !yearMonth) return;",
   "    setRpOpen(true);",
   "  \x7d;",
   "  const closeReportPreviewDrawer = () => setRpOpen(false);",
   "",
   "  useEffect(() => \x7b",
   "    if (unitOptions.length && !selectedUnit) setSelectedUnit(units[0]);",
   "  \x7d, [unitOptions, selectedUnit, units]);",
   "",
   "  const downloadUrl = selectedUnit",
   "    ? buildUrl(`$\x7bAPI_BASE\x7d/api/reports/download`, \x7b unitId: selectedUnit.unitId, yearMonth \x7d)",
   "    : null;",
   "",
   "  return (",
   "    <div className=\"client-monthly-report\">",
   "      <input type=\"month\" value=\x7byearMonth\x7d onChange=\x7b(e) => setYearMonth(e.target.value)\x7d />",
   "      <button type=\"button\" onClick=\x7bopenReportPreviewDrawer\x7d disabled=\x7b!selectedUnit\x7d>",
   "        Preview",
   "      </button>",
   "      \x7bdownloadUrl && <a href=\x7bdownloadUrl\x7d>Download PDF</a>\x7d",
   "      <AppDrawer open=\x7brpOpen\x7d onClose=\x7bcloseReportPreviewDrawer\x7d title=\"Owner Report Preview\">",
   "        <div style=\x7b\x7b height: '80vh' \x7d\x7d>",
   "          \x7brpOpen && selectedUnit && (",
   "            <div style=\x7b\x7b width: '100%', height: '100%' \x7d\x7d>",
   "              \x7bselectedUnit && yearMonth && (",
   "              <iframe",
   "                title=\"Owner Report Preview\"",
   "                src=\x7b`$\x7bAPI_BASE\x7d/api/reports/preview?unitId=$\x7bselectedUnit.unitId\x7d&yearMonth=$\x7byearMonth\x7d`\x7d",
   "                style=\x7b\x7b width: '100%', height: '100%', border: 0 \x7d\x7d",
   "              />",
   "              )\x7d",
   "            </div>",
   "          )\x7d",
   "        </div>",
   "      </AppDrawer>",
   "    </div>",
   "  );",
   "\x7d"]

/-- The report component with the fetched preview, line by line. -/
def patchedComponent : List String :=
  ["import React, \x7b useEffect, useMemo, useState \x7d from 'react';",
   "import \x7b API_BASE, AUTH_HEADERS \x7d from '../../api/config';",
   "import AppDrawer from '../common/AppDrawer';",
   "",
   "export default function ClientMonthlyReport(\x7b units = [] \x7d) \x7b",
   "  const [selectedUnit, setSelectedUnit] = useState(null);",
   "  const [yearMonth, setYearMonth] = useState('');",
   "  const [rpOpen, setRpOpen] = useState(false);",
   "  const [rpUrl, setRpUrl] = useState(null);",
   "  const [rpLoading, setRpLoading] = useState(false);",
   "  const [rpError, setRpError] = useState(null);",
   "",
   "  function buildUrl(base, params) \x7b",
   "    const usp = new URLSearchParams(params);",
   "    return `$\x7bbase\x7d?$\x7busp.toString()\x7d`;",
   "  \x7d",
   "  function buildPreviewUrl(unitId, ym) \x7b",
   "    const usp = new URLSearchParams(\x7b unitId: String(unitId), yearMonth: ym \x7d);",
   "    return `$\x7bAPI_BASE\x7d/api/reports/preview?$\x7busp.toString()\x7d`;",
   "  \x7d",
   "",
   "  const unitOptions = useMemo(",
   "    () => units.map((u) => (\x7b value: u.unitId, label: u.name \x7d)),",
   "    [units]",
   "  );",
   "",
   "  async function fetchPreviewPdf() \x7b",
   "    if (!selectedUnit?.unitId || !yearMonth) return;",
   "    setRpLoading(true);",
   "    setRpError(null);",
   "    try \x7b",
   "      const url = buildPreviewUrl(selectedUnit.unitId, yearMonth);",
   "      const resp = await fetch(url, \x7b headers: \x7b Accept: 'application/pdf', ...AUTH_HEADERS \x7d \x7d);",
   "      if (!resp.ok) throw new Error(`preview $\x7bresp.status\x7d`);",
   "      const blob = await resp.blob();",
   "      const objectUrl = URL.createObjectURL(blob);",
   "      if (rpUrl) URL.revokeObjectURL(rpUrl);",
   "      setRpUrl(objectUrl);",
   "    \x7d catch (e) \x7b",
   "      console.error('preview fetch error', e);",
   "      setRpError(e.message || 'Failed to load preview');",
   "      if (rpUrl) \x7b URL.revokeObjectURL(rpUrl); setRpUrl(null); \x7d",
   "    \x7d finally \x7b",
   "      setRpLoading(false);",
   "    \x7d",
   "  \x7d",
   "",
   "  const openReportPreviewDrawer = async () => \x7b",
   "    if (!selectedUnit?.unitId || !yearMonth) return;",
   "    setRpOpen(true);",
   "    await fetchPreviewPdf();",
   "  \x7d;",
   "",
   "  const closeReportPreviewDrawer = () => \x7b",
   "    setRpOpen(false);",
   "    if (rpUrl) \x7b",
   "      URL.revokeObjectURL(rpUrl);",
   "      setRpUrl(null);",
   "    \x7d",
   "  \x7d;",
   "",
   "  useEffect(() => \x7b",
   "    if (rpOpen) \x7b fetchPreviewPdf(); \x7d",
   "    // eslint-disable-next-line react-hooks/exhaustive-deps",
   "  \x7d, [selectedUnit?.unitId, yearMonth]);",
   "",
   "  useEffect(() => () => \x7b if (rpUrl) URL.revokeObjectURL(rpUrl); \x7d, [rpUrl]);",
   "",
   "  useEffect(() => \x7b",
   "    if (unitOptions.length && !selectedUnit) setSelectedUnit(units[0]);",
   "  \x7d, [unitOptions, selectedUnit, units]);",
   "",
   "  const downloadUrl = selectedUnit",
   "    ? buildUrl(`$\x7bAPI_BASE\x7d/api/reports/download`, \x7b unitId: selectedUnit.unitId, yearMonth \x7d)",
   "    : null;",
   "",
   "  return (",
   "    <div className=\"client-monthly-report\">",
   "      <input type=\"month\" value=\x7byearMonth\x7d onChange=\x7b(e) => setYearMonth(e.target.value)\x7d />",
   "      <button type=\"button\" onClick=\x7bopenReportPreviewDrawer\x7d disabled=\x7b!selectedUnit\x7d>",
   "        Preview",
   "      </button>",
   "      \x7bdownloadUrl && <a href=\x7bdownloadUrl\x7d>Download PDF</a>\x7d",
   "      <AppDrawer open=\x7brpOpen\x7d onClose=\x7bcloseReportPreviewDrawer\x7d title=\"Owner Report Preview\">",
   "        <div style=\x7b\x7b height: '80vh' \x7d\x7d>",
   "          \x7brpOpen && selectedUnit && (",
   "            <div style=\x7b\x7b width: '100%', height: '100%' \x7d\x7d>",
   "              \x7bselectedUnit && yearMonth && (",
   "              <>",
   "                \x7brpLoading && (",
   "                  <div style=\x7b\x7b color:'#666', fontSize: 14, padding: 16 \x7d\x7d>Loading preview…</div>",
   "                )\x7d",
   "                \x7brpError && !rpLoading && (",
   "                  <div style=\x7b\x7b color:'crimson', fontSize: 14, padding: 16 \x7d\x7d>Error: \x7brpError\x7d</div>",
   "                )\x7d",
   "                \x7b!rpLoading && !rpError && rpUrl && (",
   "                  <iframe",
   "                    src=\x7brpUrl\x7d",
   "                    title=\"Owner Report Preview\"",
   "                    style=\x7b\x7b width: '100%', height: '100%', border: 0 \x7d\x7d",
   "                  />",
   "                )\x7d",
   "              </>",
   "              )\x7d",
   "            </div>",
   "          )\x7d",
   "        </div>",
   "      </AppDrawer>",
   "    </div>",
   "  );",
   "\x7d"]

/-- The component after some of the rules: the lines that have been patched, and the lines that are
left as they were. -/
def stage (patched left : Nat) : Text :=
  lines (patchedComponent.take patched ++ component.drop left)

/-- A rule takes the component from one stage to another, whatever stands behind it. What begins and
ends the text keeps it apart from the lines around it. -/
def Rewrites (r : Rule) (items : List Expr) (b b' : Text) : Prop :=
  r.rewrite? items b = some b' ∧ r.isGuarded b = false ∧ b.head? = some 'i' ∧ ['\n'] <:+ b

instance (r : Rule) (items : List Expr) (b b' : Text) : Decidable (Rewrites r items b b') :=
  inferInstanceAs (Decidable (_ ∧ _ ∧ _ ∧ _))

-- Literals are made lists of characters first, because the kernel takes long to decode them.
theorem rewrites_state : Rewrites stateRule stateItems (stage 0 0) (stage 11 8) := by
  unfold stateRule previewState stateItems word
  unfold stage component patchedComponent
  simp only [List.take_succ_cons, List.take_zero, List.drop_succ_cons, List.drop_zero,
    List.nil_append, List.cons_append]
  repeat rw [lines_ofList_cons]
  repeat rw [String.toList_ofList]
  decide +kernel

theorem rewrites_helper : Rewrites helperRule helperItems (stage 11 8) (stage 20 13) := by
  unfold helperRule previewUrlHelper helperItems word
  unfold stage component patchedComponent
  simp only [List.take_succ_cons, List.take_zero, List.drop_succ_cons, List.drop_zero,
    List.nil_append, List.cons_append]
  repeat rw [lines_ofList_cons]
  repeat rw [String.toList_ofList]
  decide +kernel

theorem rewrites_handlers : Rewrites handlersRule handlersItems (stage 20 13) (stage 60 24) := by
  unfold handlersRule previewFetchHandlers handlersItems word
  unfold stage component patchedComponent
  simp only [List.take_succ_cons, List.take_zero, List.drop_succ_cons, List.drop_zero,
    List.nil_append, List.cons_append]
  repeat rw [lines_ofList_cons]
  repeat rw [String.toList_ofList]
  decide +kernel

theorem rewrites_effects : Rewrites effectsRule effectsItems (stage 60 24) (stage 67 24) := by
  unfold effectsRule previewEffects effectsItems effectsHead effectsTail word
  unfold stage component patchedComponent
  simp only [List.take_succ_cons, List.take_zero, List.drop_succ_cons, List.drop_zero,
    List.nil_append, List.cons_append]
  repeat rw [lines_ofList_cons]
  repeat rw [String.toList_ofList]
  decide +kernel

theorem rewrites_iframe : Rewrites iframeRule iframeItems (stage 67 24) (stage 111 58) := by
  unfold iframeRule previewIframe iframeItems iframeMiddle word
  unfold stage component patchedComponent
  simp only [List.take_succ_cons, List.take_zero, List.drop_succ_cons, List.drop_zero,
    List.nil_append, List.cons_append]
  repeat rw [lines_ofList_cons]
  repeat rw [String.toList_ofList]
  decide +kernel

theorem stage_last : stage 111 58 = lines patchedComponent := by
  have hpatched : patchedComponent.length ≤ 111 := by decide +kernel
  have hleft : component.length ≤ 58 := by decide +kernel
  rw [stage, List.take_of_length_le hpatched, List.drop_of_length_le hleft, List.append_nil]

theorem isGuarded_patched : ∀ r ∈ rules, r.isGuarded (lines patchedComponent) = true := by
  unfold patchedComponent
  repeat rw [lines_ofList_cons]
  decide +kernel

end AnchorPatch.Builtin

import TextMigration.RuleFile.Load

/-!
Rule sets that are at hand without a file. Each is kept as the text of its rule file, so that it is read
and checked like any other.
-/

namespace TextMigration

structure Builtin where
  name : Text
  source : Text
deriving DecidableEq, Repr

namespace Builtin

def landingLines : List String := [
  "# Landing page migration: violet/purple accents to the monochrome #F5F5F5",
  "# palette, section anchors for in-page navigation, and a reusable",
  "# ScrollDownIcon component replacing the hero's static scroll indicator.",
  "#",
  "# Order matters. Structural rules (component injection, whole blocks,",
  "# section openers) run before the broad color-token renames, and the most",
  "# specific token variant runs before its general form. The `</section >`",
  "# normalization runs last because several rules anchor on the unnormalized",
  "# closing tag.",
  "",
  "[meta]",
  "name = \"landing-monochrome\"",
  "description = \"Monochrome theme migration for the landing page, with section anchors and scroll-down buttons\"",
  "",
  "[fragments]",
  "scroll-down-icon = '''",
  "const ScrollDownIcon = (\x7b targetId \x7d: \x7b targetId?: string \x7d) => \x7b",
  "    const handleClick = () => \x7b",
  "        if (targetId) \x7b",
  "            const el = document.getElementById(targetId);",
  "            if (el) el.scrollIntoView(\x7b behavior: 'smooth' \x7d);",
  "        \x7d else \x7b",
  "            window.scrollBy(\x7b top: window.innerHeight, behavior: 'smooth' \x7d);",
  "        \x7d",
  "    \x7d;",
  "    return (",
  "        <motion.div",
  "            initial=\x7b\x7b opacity: 0 \x7d\x7d",
  "            animate=\x7b\x7b opacity: 1 \x7d\x7d",
  "            transition=\x7b\x7b delay: 1, duration: 1 \x7d\x7d",
  "            className=\"absolute bottom-10 left-1/2 -translate-x-1/2 z-20 flex flex-col items-center cursor-pointer p-4 group\"",
  "            onClick=\x7bhandleClick\x7d",
  "        >",
  "            <motion.div",
  "                animate=\x7b\x7b y: [0, 10, 0] \x7d\x7d",
  "                transition=\x7b\x7b repeat: Infinity, duration: 2, ease: \"easeInOut\" \x7d\x7d",
  "            >",
  "                <ChevronDown className=\"w-8 h-8 text-white/40 group-hover:text-[#F5F5F5] transition-colors\" />",
  "            </motion.div>",
  "        </motion.div>",
  "    );",
  "\x7d;",
  "",
  "'''",
  "",
  "# --- Component injection -------------------------------------------------",
  "",
  "[[rules]]",
  "id = \"inject-scroll-down-icon\"",
  "placement = \"before\"",
  "scope = \"first\"",
  "unless = \"const ScrollDownIcon\"",
  "match = \x7b type = \"exact\", text = \"export default function LandingPage() \x7b\" \x7d",
  "replace = \x7b fragment = \"scroll-down-icon\" \x7d",
  "",
  "# --- Page chrome ---------------------------------------------------------",
  "",
  "[[rules]]",
  "id = \"selection-color\"",
  "required = false",
  "match = \x7b type = \"exact\", text = \"selection:bg-purple-600/30\" \x7d",
  "replace = \x7b text = \"selection:bg-[#F5F5F5]/30 selection:text-black\" \x7d",
  "",
  "[[rules]]",
  "id = \"scroll-progress-bar\"",
  "required = false",
  "match = \x7b type = \"exact\", text = \"bg-violet-600 origin-left\" \x7d",
  "replace = \x7b text = \"bg-[#F5F5F5] origin-left\" \x7d",
  "",
  "[[rules]]",
  "id = \"brand-suffix\"",
  "required = false",
  "match = \x7b type = \"exact\", text = '<span className=\"text-[#6D28D9]\">.ai</span>' \x7d",
  "replace = \x7b text = '<span className=\"text-[#F5F5F5]\">.ai</span>' \x7d",
  "",
  "[[rules]]",
  "id = \"accent-text\"",
  "required = false",
  "match = \x7b type = \"exact\", text = \"text-[#6D28D9]\" \x7d",
  "replace = \x7b text = \"text-[#F5F5F5]\" \x7d",
  "",
  "[[rules]]",
  "id = \"logo-toggle\"",
  "required = false",
  "[rules.match]",
  "type = \"exact\"",
  "text = '''",
  "<div className=\"w-10 h-5 bg-[#5B21B6] rounded-full flex items-center justify-between px-1 shadow-inner border border-[#5B21B6]/50\">",
  "                            <div className=\"w-[1.5px] h-2.5 bg-white/70 rounded-full ml-1\" />",
  "                            <div className=\"w-3.5 h-3.5 bg-white rounded-full shadow-sm\" />",
  "                        </div>'''",
  "[rules.replace]",
  "text = '''",
  "<div className=\"w-10 h-5 bg-[#F5F5F5] rounded-full flex items-center justify-between px-1 shadow-inner border border-white/20\">",
  "                            <div className=\"w-[1.5px] h-2.5 bg-[#0D0D0F]/70 rounded-full ml-1\" />",
  "                            <div className=\"w-3.5 h-3.5 bg-[#0D0D0F] rounded-full shadow-sm\" />",
  "                        </div>'''",
  "",
  "# --- Hero ----------------------------------------------------------------",
  "",
  "[[rules]]",
  "id = \"hero-anchor\"",
  "scope = \"first\"",
  "match = \x7b type = \"exact\", text = '<section className=\"relative min-h-[100vh] flex flex-col items-center justify-center pt-24 pb-12 px-6 overflow-hidden\">' \x7d",
  "replace = \x7b text = '<section id=\"hero\" className=\"relative min-h-[100vh] flex flex-col items-center justify-center pt-24 pb-12 px-6 overflow-hidden\">' \x7d",
  "",
  "[[rules]]",
  "id = \"hero-image-opacity\"",
  "required = false",
  "match = \x7b type = \"exact\", text = 'className=\"object-cover object-top opacity-50\"' \x7d",
  "replace = \x7b text = 'className=\"object-cover object-top opacity-30\"' \x7d",
  "",
  "[[rules]]",
  "id = \"hero-button\"",
  "required = false",
  "match = \x7b type = \"exact\", text = \"bg-[#5B21B6] hover:bg-[#4C1D95] text-white\" \x7d",
  "replace = \x7b text = \"bg-[#F5F5F5] hover:bg-white text-black\" \x7d",
  "",
  "[[rules]]",
  "id = \"hero-scroll-indicator\"",
  "[rules.match]",
  "type = \"delimited\"",
  "start = \"                \x7b/* Animated Scroll Indicator */\x7d\"",
  "end = \"\"\"",
  "</motion.div>",
  "                </motion.div>\"\"\"",
  "[rules.replace]",
  "text = '                <ScrollDownIcon targetId=\"pipeline\" />'",
  "",
  "# --- Pipeline ------------------------------------------------------------",
  "",
  "[[rules]]",
  "id = \"pipeline-anchor\"",
  "required = false",
  "match = \x7b type = \"exact\", text = '< section className=\"py-32 px-6 bg-transparent relative\" >' \x7d",
  "replace = \x7b text = '<section id=\"pipeline\" className=\"py-32 px-6 bg-transparent relative\">' \x7d",
  "",
  "[[rules]]",
  "id = \"pipeline-divider\"",
  "required = false",
  "match = \x7b type = \"exact\", text = \"via-violet-500/30\" \x7d",
  "replace = \x7b text = \"via-[#F5F5F5]/30\" \x7d",
  "",
  "[[rules]]",
  "id = \"pipeline-step-text\"",
  "required = false",
  "match = \x7b type = \"exact\", text = \"text-violet-400\" \x7d",
  "replace = \x7b text = \"text-[#F5F5F5]\" \x7d",
  "",
  "[[rules]]",
  "id = \"pipeline-scroll-button\"",
  "required = false",
  "match = \x7b type = \"exact\", text = \"</section >\\n\\n            \x7b/* BEFORE / AFTER\" \x7d",
  "replace = \x7b text = \"<ScrollDownIcon targetId=\\\"showcase\\\" />\\n            </section>\\n\\n            \x7b/* BEFORE / AFTER\" \x7d",
  "",
  "# --- Showcase ------------------------------------------------------------",
  "",
  "[[rules]]",
  "id = \"showcase-anchor\"",
  "required = false",
  "match = \x7b type = \"exact\", text = '< section className=\"py-32 px-6 relative overflow-hidden\" >' \x7d",
  "replace = \x7b text = '<section id=\"showcase\" className=\"py-32 px-6 relative overflow-hidden\">' \x7d",
  "",
  "[[rules]]",
  "id = \"showcase-glow\"",
  "required = false",
  "match = \x7b type = \"exact\", text = \"bg-violet-900/10\" \x7d",
  "replace = \x7b text = \"bg-[#F5F5F5]/5\" \x7d",
  "",
  "[[rules]]",
  "id = \"showcase-text\"",
  "required = false",
  "match = \x7b type = \"exact\", text = \"text-violet-500\" \x7d",
  "replace = \x7b text = \"text-[#F5F5F5]\" \x7d",
  "",
  "[[rules]]",
  "id = \"showcase-badge\"",
  "required = false",
  "match = \x7b type = \"exact\", text = \"bg-violet-500/20\" \x7d",
  "replace = \x7b text = \"bg-[#F5F5F5]/20\" \x7d",
  "",
  "[[rules]]",
  "id = \"showcase-slider-handle\"",
  "required = false",
  "match = \x7b type = \"exact\", text = \"bg-violet-500 shadow-[0_0_15px_rgba(139,92,246,1)]\" \x7d",
  "replace = \x7b text = \"bg-[#F5F5F5]\" \x7d",
  "",
  "[[rules]]",
  "id = \"violet-500-fill\"",
  "required = false",
  "match = \x7b type = \"exact\", text = \"bg-violet-500\" \x7d",
  "replace = \x7b text = \"bg-[#F5F5F5]\" \x7d",
  "",
  "[[rules]]",
  "id = \"showcase-label\"",
  "required = false",
  "match = \x7b type = \"exact\", text = \"bg-violet-600/90\" \x7d",
  "replace = \x7b text = \"bg-[#F5F5F5]/90 text-black\" \x7d",
  "",
  "[[rules]]",
  "id = \"showcase-gradient\"",
  "required = false",
  "match = \x7b type = \"exact\", text = \"from-violet-900/40\" \x7d",
  "replace = \x7b text = \"from-[#F5F5F5]/10\" \x7d",
  "",
  "[[rules]]",
  "id = \"showcase-scroll-button\"",
  "required = false",
  "match = \x7b type = \"exact\", text = \"</section >\\n\\n            \x7b/* FEATURES\" \x7d",
  "replace = \x7b text = \"<ScrollDownIcon targetId=\\\"features\\\" />\\n            </section>\\n\\n            \x7b/* FEATURES\" \x7d",
  "",
  "# --- Features ------------------------------------------------------------",
  "",
  "[[rules]]",
  "id = \"features-anchor\"",
  "required = false",
  "match = \x7b type = \"exact\", text = '< section className=\"py-32 px-6 bg-[#0D0D0F]\" >' \x7d",
  "replace = \x7b text = '<section id=\"features\" className=\"py-32 px-6 bg-[#0D0D0F] relative\">' \x7d",
  "",
  "[[rules]]",
  "id = \"features-scroll-button\"",
  "required = false",
  "match = \x7b type = \"exact\", text = \"</section >\\n\\n            \x7b/* CALL TO ACTION\" \x7d",
  "replace = \x7b text = \"<ScrollDownIcon targetId=\\\"cta\\\" />\\n            </section>\\n\\n            \x7b/* CALL TO ACTION\" \x7d",
  "",
  "# --- Call to action ------------------------------------------------------",
  "",
  "[[rules]]",
  "id = \"cta-anchor\"",
  "required = false",
  "match = \x7b type = \"exact\", text = '< section className=\"py-32 px-6 relative overflow-hidden flex justify-center text-center\" >' \x7d",
  "replace = \x7b text = '<section id=\"cta\" className=\"py-32 px-6 relative overflow-hidden flex justify-center text-center\">' \x7d",
  "",
  "[[rules]]",
  "id = \"cta-gradient\"",
  "required = false",
  "match = \x7b type = \"exact\", text = \"from-violet-900/20\" \x7d",
  "replace = \x7b text = \"from-[#F5F5F5]/5\" \x7d",
  "",
  "# --- Normalization -------------------------------------------------------",
  "",
  "[[rules]]",
  "id = \"normalize-section-close\"",
  "required = false",
  "match = \x7b type = \"pattern\", regex = '</section\\s+>' \x7d",
  "replace = \x7b text = \"</section>\" \x7d",
  "",
  "[[expect]]",
  "present = 'id=\"hero\"'",
  "",
  "[[expect]]",
  "present = \"const ScrollDownIcon\"",
  "",
  "[[expect]]",
  "present = '<ScrollDownIcon targetId=\"pipeline\" />'",
  "",
  "[[expect]]",
  "absent = \"bg-violet-500\"",
  "",
  "[[expect]]",
  "absent = \"#6D28D9\"",
  "",
  "[[expect]]",
  "absent = \"</section >\""]

def landingMonochrome : Builtin where
  name := "landing-monochrome".toList
  source := landingLines.flatMap fun line => Text.ofString line ++ ['\n']

def all : List Builtin := [landingMonochrome]

def named? (name : Text) : Option Builtin := all.find? fun builtin => builtin.name = name

/-- The rule set, under its own name if its text has none. -/
def load (builtin : Builtin) : Except LoadError RuleSet :=
  RuleFile.loadNamed builtin.name builtin.source

end Builtin

end TextMigration

/-!
# Symbols

The characters that commands stand for. A command that sets type or spacing stands for nothing.
A few keys spell several commands in a row, as `Formula.idiom` recognises them. No key occurs twice.
-/

namespace WikiText.Formula

/-- Commands that begin with a capital letter. -/
def capitalSymbols : List (String × String) := [
  ("AC", "∿"), ("APLcomment", "⍝"), ("APLdownarrowbox", "⍗"), ("APLinput", "⍞"), ("APLinv", "⌹"),
  ("APLleftarrowbox", "⍇"), ("APLlog", "⍟"), ("APLrightarrowbox", "⍈"), ("APLuparrowbox", "⍐"),
  ("Angstroem", "Å"), ("Bot", "⫫"), ("Box", "□"), ("Bumpeq", "≎"), ("CIRCLE", "●"), ("Cap", "⋒"),
  ("CapitalDifferentialD", "ⅅ"), ("CheckedBox", "☑"), ("Circle", "○"), ("Coloneqq", "⩴"),
  ("ComplexI", "ⅈ"), ("ComplexJ", "ⅉ"), ("Cup", "⋓"), ("Delta", "Δ"), ("Diamond", "◇"),
  ("Diamondblack", "◆"), ("Diamonddot", "⟐"), ("DifferentialD", "ⅆ"), ("Digamma", "Ϝ"),
  ("Doteq", "≑"), ("DownArrowBar", "⤓"), ("DownLeftTeeVector", "⥞"), ("DownLeftVectorBar", "⥖"),
  ("DownRightTeeVector", "⥟"), ("DownRightVectorBar", "⥗"), ("Downarrow", "⇓"), ("Equal", "⩵"),
  ("Euler", "Ɛ"), ("ExponentialE", "ⅇ"), ("ExponetialE", "ⅇ"), ("Finv", "Ⅎ"), ("Gamma", "Γ"),
  ("Im", "ℑ"), ("Join", "⨝"), ("Koppa", "Ϟ"), ("LEFTCIRCLE", "◖"), ("LEFTcircle", "◐"),
  ("LHD", "◀"), ("LVec", "x\u20d6"), ("Lambda", "Λ"), ("Lbag", "⟅"), ("LeftArrowBar", "⇤"),
  ("LeftDownTeeVector", "⥡"), ("LeftDownVectorBar", "⥙"), ("LeftTeeVector", "⥚"),
  ("LeftTriangleBar", "⧏"), ("LeftUpTeeVector", "⥠"), ("LeftUpVectorBar", "⥘"),
  ("LeftVectorBar", "⥒"), ("Leftarrow", "⇐"), ("Leftrightarrow", "⇔"), ("Lleftarrow", "⇚"),
  ("Longleftarrow", "⟸"), ("Longleftrightarrow", "⟺"), ("Longmapsfrom", "⟽"),
  ("Longmapsto", "⟾"), ("Longrightarrow", "⟹"), ("Lparen", "⦅"), ("Lsh", "↰"), ("MapsDown", "↧"),
  ("MapsUp", "↥"), ("Mapsfrom", "⤆"), ("Mapsto", "⤇"), ("Micro", "µ"), ("Nearrow", "⇗"),
  ("NestedGreaterGreater", "⪢"), ("NestedLessLess", "⪡"), ("NotGreaterLess", "≹"),
  ("NotGreaterTilde", "≵"), ("NotLessTilde", "≴"), ("Nwarrow", "⇖"), ("Omega", "Ω"),
  ("Phi", "Φ"), ("Pi", "Π"), ("Proportion", "∷"), ("Psi", "Ψ"), ("Qoppa", "Ϙ"), ("RHD", "▶"),
  ("RIGHTCIRCLE", "◗"), ("RIGHTcircle", "◑"), ("Rbag", "⟆"), ("Re", "ℜ"), ("RightArrowBar", "⇥"),
  ("RightDownTeeVector", "⥝"), ("RightDownVectorBar", "⥕"), ("RightTeeVector", "⥛"),
  ("RightTriangleBar", "⧐"), ("RightUpTeeVector", "⥜"), ("RightUpVectorBar", "⥔"),
  ("RightVectorBar", "⥓"), ("Rightarrow", "⇒"), ("Rparen", "⦆"), ("Rrightarrow", "⇛"),
  ("Rsh", "↱"), ("S", "§"), ("Same", "⩶"), ("Sampi", "Ϡ"), ("Searrow", "⇘"), ("Sigma", "Σ"),
  ("Square", "☐"), ("Stigma", "Ϛ"), ("Subset", "⋐"), ("Sun", "☉"), ("Supset", "⋑"),
  ("Swarrow", "⇙"), ("Theta", "Θ"), ("Top", "⫪"), ("UpArrowBar", "⤒"), ("Uparrow", "⇑"),
  ("Updownarrow", "⇕"), ("Upsilon", "Υ"), ("VDash", "⊫"), ("VERT", "⦀"), ("Vdash", "⊩"),
  ("Vert", "‖"), ("Vvdash", "⊪"), ("XBox", "☒"), ("Xi", "Ξ"), ("Yup", "⅄"), ("Big", ""),
  ("Bigg", "")]

/-- Commands that begin with `a` to `d`. -/
def symbolsAToD : List (String × String) := [
  ("aleph", "א"), ("alpha", "α"), ("amalg", "⨿"), ("anchor", "⚓"), ("angle", "∠"),
  ("approx", "≈"), ("approxeq", "≊"), ("aquarius", "♒"), ("arg", "arg"), ("aries", "♈"),
  ("arrowbullet", "➢"), ("ast", "∗"), ("asymp", "≍"), ("backepsilon", "϶"), ("backprime", "‵"),
  ("backsim", "∽"), ("backsimeq", "⋍"), ("backslash", ""), ("ballotx", "✗"), ("barin", "⋶"),
  ("barleftharpoon", "⥫"), ("barrightharpoon", "⥭"), ("barwedge", "⊼"), ("because", "∵"),
  ("beta", "β"), ("beth", "ב"), ("between", "≬"), ("bigcap", "∩"), ("bigcup", "∪"),
  ("biginterleave", "⫼"), ("bigodot", "⨀"), ("bigoplus", "⨁"), ("bigotimes", "⨂"),
  ("bigsqcap", "⨅"), ("bigsqcup", "⨆"), ("bigstar", "★"), ("bigtriangledown", "▽"),
  ("bigtriangleup", "△"), ("biguplus", "⨄"), ("bigvee", "∨"), ("bigwedge", "∧"), ("bij", "⤖"),
  ("biohazard", "☣"), ("blacklozenge", "⧫"), ("blacksmiley", "☻"), ("blacksquare", "■"),
  ("blacktriangledown", "▾"), ("blacktriangleleft", "◂"), ("blacktriangleright", "▸"),
  ("blacktriangleup", "▴"), ("bot", "⊥"), ("bowtie", "⋈"), ("boxast", "⧆"), ("boxbar", "◫"),
  ("boxbox", "⧈"), ("boxbslash", "⧅"), ("boxcircle", "⧇"), ("boxdot", "⊡"), ("boxminus", "⊟"),
  ("boxplus", "⊞"), ("boxslash", "⧄"), ("boxtimes", "⊠"), ("bullet", "•"), ("bumpeq", "≏"),
  ("cancer", "♋"), ("cap", "∩"), ("capricornus", "♑"), ("capwedge", "⩄"), ("cat", "⁀"),
  ("cdot", "·"), ("cdots", "⋯"), ("cent", "¢"), ("checkmark", "✓"), ("chi", "χ"), ("circ", "∘"),
  ("circeq", "≗"), ("circlearrowleft", "↺"), ("circlearrowright", "↻"), ("circledR", "®"),
  ("circledast", "⊛"), ("circledbslash", "⦸"), ("circledcirc", "⊚"), ("circleddash", "⊝"),
  ("circledgtr", "⧁"), ("circledless", "⧀"), ("clubsuit", "♣"), ("colon", ":"), ("coloneq", "≔"),
  ("complement", "∁"), ("cong", "≅"), ("coprod", "∐"), ("corresponds", "≙"), ("cup", "∪"),
  ("curlyeqprec", "⋞"), ("curlyeqsucc", "⋟"), ("curlyvee", "⋎"), ("curlywedge", "⋏"),
  ("curvearrowleft", "↶"), ("curvearrowright", "↷"), ("dagger", "†"), ("daleth", "ד"),
  ("dashleftarrow", "⇠"), ("dashrightarrow", "⇢"), ("dashv", "⊣"), ("ddagger", "‡"),
  ("delta", "δ"), ("diameter", "∅"), ("diamond", "⋄"), ("diamondsuit", "♢"), ("digamma", "ϝ"),
  ("div", "÷"), ("divideontimes", "⋇"), ("dlsh", "↲"), ("dot\\bigvee", "⩒"), ("dot\\cap", "⩀"),
  ("dot\\cup", "⊍"), ("dot\\lor", "⩒"), ("dot\\vee", "⩒"), ("doteq", "≐"), ("dotplus", "∔"),
  ("dots", "…"), ("doublebarwedge", "⩞"), ("downarrow", "↓"), ("downdownarrows", "⇊"),
  ("downdownharpoons", "⥥"), ("downharpoonleft", "⇃"), ("downharpoonright", "⇂"),
  ("downuparrows", "⇵"), ("downupharpoons", "⥯"), ("drsh", "↳"), ("dsub", "⩤"),
  ("acute", "\u0301"), ("bar", "\u0304"), ("breve", "\u0306"), ("check", "\u030c"),
  ("ddddot", "\u20dc"), ("dddot", "\u20db"), ("ddot", "\u0308"), ("ddots", "⋱"),
  ("dot", "\u0307"), ("bigl", ""), ("bigr", ""), ("boldsymbol", ""), ("displaystyle", ""),
  ("big", ""), ("bigg", "")]

/-- Commands that begin with `e` to `l`. -/
def symbolsEToL : List (String × String) := [
  ("earth", "♁"), ("eighthnote", "♪"), ("ell", "ℓ"), ("emptyset", "∅"), ("epsilon", "ϵ"),
  ("eqcirc", "≖"), ("eqcolon", "∹"), ("eqsim", "≂"), ("eqslantgtr", "⪖"), ("eqslantless", "⪕"),
  ("equiv", "≡"), ("eta", "η"), ("eth", "ð"), ("exists", "∃"), ("fallingdotseq", "≒"),
  ("fcmp", "⨾"), ("female", "♀"), ("ffun", "⇻"), ("finj", "⤕"), ("fint", "⨏"), ("flat", "♭"),
  ("footnotesize", ""), ("forall", "∀"), ("fourth", "⁗"), ("frown", "⌢"), ("frownie", "☹"),
  ("gamma", "γ"), ("ge", ">"), ("gemini", "♊"), ("geq", "≥"), ("geqq", "≧"), ("geqslant", "⩾"),
  ("gg", "≫"), ("ggcurly", "⪼"), ("ggg", "⋙"), ("gimel", "ג"), ("gnapprox", "⪊"), ("gneq", "⪈"),
  ("gneqq", "≩"), ("gnsim", "⋧"), ("gtrapprox", "⪆"), ("gtrdot", "⋗"), ("gtreqless", "⋛"),
  ("gtreqqless", "⪌"), ("gtrless", "≷"), ("gtrsim", "≳"), ("hash", "⋕"), ("heartsuit", "♡"),
  ("hookleftarrow", "↩"), ("hookrightarrow", "↪"), ("hslash", "ℏ"), ("iddots", "⋰"),
  ("iff", "⟺"), ("iiiint", "⨌"), ("iiint", "∭"), ("iint", "∬"), ("imath", "ı"), ("implies", "⟹"),
  ("in", "∈"), ("infty", "∞"), ("int", "∫"), ("intercal", "⊺"), ("interleave", "⫴"),
  ("invamp", "⅋"), ("invdiameter", "⍉"), ("invneg", "⌐"), ("iota", "ι"), ("jmath", "ȷ"),
  ("jupiter", "♃"), ("kappa", "κ"), ("koppa", "ϟ"), ("lambda", "λ"), ("land", "∧"),
  ("lang", "⟪"), ("langle", "⟨"), ("large", ""), ("lblot", "⦉"), ("lbrace", "\x7b"),
  ("lbrack", "["), ("lceil", "⌈"), ("ldots", "…"), ("le", "<"), ("leadsto", "⤳"),
  ("leftarrow", "←"), ("leftarrowtail", "↢"), ("leftarrowtriangle", "⇽"),
  ("leftbarharpoon", "⥪"), ("leftharpoondown", "↽"), ("leftharpoonup", "↼"),
  ("leftleftarrows", "⇇"), ("leftleftharpoons", "⥢"), ("leftmoon", "☾"), ("leftrightarrow", "↔"),
  ("leftrightarrows", "⇆"), ("leftrightarrowtriangle", "⇿"), ("leftrightharpoon", "⥊"),
  ("leftrightharpoondown", "⥐"), ("leftrightharpoons", "⇋"), ("leftrightharpoonup", "⥎"),
  ("leftrightsquigarrow", "↭"), ("leftslice", "⪦"), ("leftsquigarrow", "⇜"),
  ("leftthreetimes", "⋋"), ("leftupdownharpoon", "⥑"), ("leo", "♌"), ("leq", "≤"), ("leqq", "≦"),
  ("leqslant", "⩽"), ("lessapprox", "⪅"), ("lessdot", "⋖"), ("lesseqgtr", "⋚"),
  ("lesseqqgtr", "⪋"), ("lessgtr", "≶"), ("lessim", "≲"), ("lesssim", "≲"), ("lfloor", "⌊"),
  ("lgroup", "⟮"), ("lhd", "◁"), ("libra", "♎"), ("lightning", "↯"), ("limg", "⦇"), ("ll", "≪"),
  ("llbracket", "⟦"), ("llcorner", "⌞"), ("llcurly", "⪻"), ("lll", "⋘"), ("lnapprox", "⪉"),
  ("lneq", "⪇"), ("lneqq", "≨"), ("lnot", "¬"), ("lnsim", "⋦"), ("longleftarrow", "⟵"),
  ("longleftrightarrow", "⟷"), ("longmapsfrom", "⟻"), ("longmapsto", "⟼"),
  ("longrightarrow", "⟶"), ("looparrowleft", "↫"), ("looparrowright", "↬"), ("lor", "∨"),
  ("lozenge", "◊"), ("lrcorner", "⌟"), ("ltimes", "⋉"), ("grave", "\u0300"), ("hat", "\u0302"),
  ("lvec", "\u20d0"), ("left", ""), ("limits", "")]

/-- Commands that begin with `m` to `r`. -/
def symbolsMToR : List (String × String) := [
  ("male", "♂"), ("maltese", "✠"), ("mapsfrom", "↤"), ("mapsto", "↦"), ("measuredangle", "∡"),
  ("medbullet", "⚫"), ("medcirc", "⚪"), ("mercury", "☿"), ("mho", "℧"), ("mid", "∣"),
  ("mlcp", "⫛"), ("mod", " mod "), ("models", "⊧"), ("mp", "∓"), ("mu", "μ"), ("multimap", "⊸"),
  ("multimapboth", "⧟"), ("multimapdotbothA", "⊶"), ("multimapdotbothB", "⊷"),
  ("multimapinv", "⟜"), ("nLeftarrow", "⇍"), ("nLeftrightarrow", "⇎"), ("nRightarrow", "⇏"),
  ("nVDash", "⊯"), ("nVdash", "⊮"), ("nabla", "∇"), ("napprox", "≉"), ("natural", "♮"),
  ("ncong", "≇"), ("nearrow", "↗"), ("neg", "¬"), ("neptune", "♆"), ("neq", "≠"),
  ("nequiv", "≢"), ("nexists", "∄"), ("ngeq", "≱"), ("ngtr", "≯"), ("ni", "∋"),
  ("nleftarrow", "↚"), ("nleftrightarrow", "↮"), ("nleq", "≰"), ("nless", "≮"), ("nmid", "∤"),
  ("nni", "∌"), ("normalsize", ""), ("not\\in", "∉"), ("not\\ni", "∌"), ("not\\preceq", "⋠"),
  ("not\\subset", "⊄"), ("not\\subseteq", "⊈"), ("not\\succeq", "⋡"), ("not\\supset", "⊅"),
  ("not\\supseteq", "⊉"), ("not\\trianglelefteq", "⋬"), ("not\\trianglerighteq", "⋭"),
  ("not\\vartriangleleft", "⋪"), ("not\\vartriangleright", "⋫"), ("notasymp", "≭"),
  ("notbackslash", "⍀"), ("notin", "∉"), ("notslash", "⌿"), ("nparallel", "∦"), ("nprec", "⊀"),
  ("npreceq", "⋠"), ("nrightarrow", "↛"), ("nsim", "≁"), ("nsimeq", "≄"), ("nsqsubseteq", "⋢"),
  ("nsqsupseteq", "⋣"), ("nsubset", "⊄"), ("nsubseteq", "⊈"), ("nsucc", "⊁"), ("nsucceq", "⋡"),
  ("nsupset", "⊅"), ("nsupseteq", "⊉"), ("ntriangleleft", "⋪"), ("ntrianglelefteq", "⋬"),
  ("ntriangleright", "⋫"), ("ntrianglerighteq", "⋭"), ("nu", "ν"), ("nvDash", "⊭"),
  ("nvdash", "⊬"), ("nwarrow", "↖"), ("odot", "⊙"), ("oiiint", "∰"), ("oiint", "∯"),
  ("oint", "∮"), ("ointctrclockwise", "∳"), ("omega", "ω"), ("ominus", "⊖"), ("oplus", "⊕"),
  ("oslash", "⊘"), ("otimes", "⊗"), ("over", "/"), ("overbrace", "⏞"),
  ("overleftrightarrow", "x\u20e1"), ("overparen", "⏜"), ("overset?=", "≟"),
  ("overset\x7b?\x7d\x7b=\x7d", "≟"), ("overset\x7b\\operatorname\x7bdef\x7d\x7d\x7b=\x7d", "≝"),
  ("parallel", "∥"), ("partial", "∂"), ("pencil", "✎"), ("perp", "⊥"), ("pfun", "⇸"),
  ("phi", "ϕ"), ("pi", "π"), ("pinj", "⤔"), ("pisces", "♓"), ("pitchfork", "⋔"), ("pluto", "♇"),
  ("pm", "±"), ("pointright", "☞"), ("pounds", "£"), ("prec", "≺"), ("precapprox", "⪷"),
  ("preccurlyeq", "≼"), ("preceq", "⪯"), ("preceqq", "⪳"), ("precnapprox", "⪹"),
  ("precnsim", "⋨"), ("precsim", "≾"), ("prime", "′"), ("prod", "∏"), ("propto", "∝"),
  ("psi", "ψ"), ("psur", "⤀"), ("qoppa", "ϙ"), ("quad", "\u2001"), ("quarternote", "♩"),
  ("radiation", "☢"), ("rang", "⟫"), ("rangle", "⟩"), ("rarr", "→"), ("rblot", "⦊"),
  ("rbrace", "\x7d"), ("rbrack", "]"), ("rceil", "⌉"), ("recycle", "♻"), ("rfloor", "⌋"),
  ("rgroup", "⟯"), ("rhd", "▷"), ("rho", "ρ"), ("rightangle", "∟"), ("rightarrow", "→"),
  ("rightarrowtail", "↣"), ("rightarrowtriangle", "⇾"), ("rightbarharpoon", "⥬"),
  ("rightharpoondown", "⇁"), ("rightharpoonup", "⇀"), ("rightleftarrows", "⇄"),
  ("rightleftharpoon", "⥋"), ("rightleftharpoons", "⇌"), ("rightmoon", "☽"),
  ("rightrightarrows", "⇉"), ("rightrightharpoons", "⥤"), ("rightslice", "⪧"),
  ("rightsquigarrow", "⇝"), ("rightthreetimes", "⋌"), ("rightupdownharpoon", "⥏"), ("rimg", "⦈"),
  ("risingdotseq", "≓"), ("rrbracket", "⟧"), ("rsub", "⩥"), ("rtimes", "⋊"),
  ("qquad", "\u2001\u2001"), ("mathring", "\u030a"), ("not", "\u0338"), ("overline", "◌\u0305"),
  ("right", ""), ("mathrm", ""), ("mathbf", ""), ("mathit", ""), ("mathsf", ""), ("mathtt", ""),
  ("operatorname", ""), ("nolimits", "")]

/-- Commands that begin with `s` to `z`. -/
def symbolsSToZ : List (String × String) := [
  ("sagittarius", "♐"), ("sampi", "ϡ"), ("saturn", "♄"), ("scorpio", "♏"), ("scriptsize", ""),
  ("searrow", "↘"), ("second", "″"), ("setminus", "⧵"), ("sharp", "♯"), ("sigma", "σ"),
  ("sim", "∼"), ("simeq", "≃"), ("sixteenthnote", "♬"), ("skull", "☠"), ("slash", "∕"),
  ("small", ""), ("smallsetminus", "∖"), ("smalltriangledown", "▿"), ("smalltriangleleft", "◃"),
  ("smalltriangleright", "▹"), ("smalltriangleup", "▵"), ("smile", "⌣"), ("smiley", "☺"),
  ("spadesuit", "♠"), ("spddot", "¨"), ("sphat", "^"), ("sphericalangle", "∢"), ("spot", "⦁"),
  ("sptilde", "~"), ("sqcap", "⊓"), ("sqcup", "⊔"), ("sqint", "⨖"), ("sqrt", "√"),
  ("sqrt[3]", "∛"), ("sqrt[4]", "∜"), ("sqsubset", "⊏"), ("sqsubseteq", "⊑"), ("sqsupset", "⊐"),
  ("sqsupseteq", "⊒"), ("square", "□"), ("sslash", "⫽"), ("star", "⋆"), ("steaming", "☕"),
  ("stigma", "ϛ"), ("strictfi", "⥼"), ("strictif", "⥽"), ("subset", "⊂"), ("subseteq", "⊆"),
  ("subseteqq", "⫅"), ("subsetneq", "⊊"), ("subsetneqq", "⫋"), ("succ", "≻"),
  ("succapprox", "⪸"), ("succcurlyeq", "≽"), ("succeq", "⪰"), ("succeqq", "⪴"),
  ("succnapprox", "⪺"), ("succnsim", "⋩"), ("succsim", "≿"), ("sum", "∑"), ("sun", "☼"),
  ("supset", "⊃"), ("supseteq", "⊇"), ("supseteqq", "⫆"), ("supsetneq", "⊋"),
  ("supsetneqq", "⫌"), ("swarrow", "↙"), ("swords", "⚔"), ("talloblong", "⫾"), ("tau", "τ"),
  ("taurus", "♉"), ("tcohm", "Ω"), ("textbackslash", "\\"), ("textbar", "|"),
  ("textbullet", "•"), ("textgreater", ">"), ("textless", "<"), ("textprime", "′"),
  ("therefore", "∴"), ("theta", "θ"), ("third", "‴"), ("times", "×"), ("tiny", ""), ("to", "→"),
  ("top", "⊤"), ("triangle", "∆"), ("trianglelefteq", "⊴"), ("triangleq", "≜"),
  ("trianglerighteq", "⊵"), ("twoheadleftarrow", "↞"), ("twoheadrightarrow", "↠"),
  ("twonotes", "♫"), ("ulcorner", "⌜"), ("underbar", "\u00a0\u0331"), ("underbrace", "⏟"),
  ("underleftarrow", "x\u20ee"), ("underline", "\u00a0\u0332"), ("underparen", "⏝"),
  ("underrightarrow", "x\u20ef"), ("uparrow", "↑"), ("updownarrow", "↕"), ("updownarrows", "⇅"),
  ("updownharpoons", "⥮"), ("upharpoonleft", "↿"), ("upharpoonright", "↾"), ("uplus", "⊎"),
  ("upsilon", "υ"), ("upuparrows", "⇈"), ("upupharpoons", "⥣"), ("uranus", "♅"),
  ("urcorner", "⌝"), ("utilde", "\u00a0\u0330"), ("vDash", "⊨"), ("varbeta", "β"),
  ("varclubsuit", "♧"), ("vardiamondsuit", "♦"), ("varepsilon", "ε"), ("varheartsuit", "♥"),
  ("varkappa", "ϰ"), ("varnothing", "∅"), ("varointclockwise", "∲"), ("varphi", "φ"),
  ("varpi", "ϖ"), ("varprod", "⨉"), ("varrho", "ϱ"), ("varsigma", "ς"), ("varspadesuit", "♤"),
  ("vartheta", "θ"), ("vartriangleleft", "⊲"), ("vartriangleright", "⊳"), ("vdash", "⊢"),
  ("vdots", "⋮"), ("vee", "∨"), ("veebar", "⊻"), ("vert", "|"), ("virgo", "♍"), ("warning", "⚠"),
  ("wasylozenge", "⌑"), ("wedge", "∧"), ("widehat=", "≙"), ("widehat\x7b=\x7d", "≙"),
  ("wp", "℘"), ("wr", "≀"), ("xi", "ξ"), ("yen", "¥"), ("yinyang", "☯"), ("zcmp", "⨟"),
  ("zeta", "ζ"), ("zhide", "⧹"), ("zpipe", "⨠"), ("zproject", "⨡"), ("tilde", "\u0303"),
  ("vec", "\u20d1"), ("style", ""), ("textstyle", ""), ("scriptstyle", "")]

/-- Commands of one character that is not a letter. -/
def markSymbols : List (String × String) := [
  ("_", "_"), ("|", "‖"), (",", " "), (":", " "), (";", " "), ("!", ""), (" ", " "), ("\\", " ")]

/-- All commands that stand for a symbol, named without their backslash. -/
def symbols : List (String × String) :=
  capitalSymbols ++ symbolsAToD ++ symbolsEToL ++ symbolsMToR ++ symbolsSToZ ++ markSymbols

/-- The text that a command stands for, if it is in the table. -/
def symbol? (command : List Char) : Option (List Char) :=
  (symbols.lookup (String.ofList command)).map String.toList

end WikiText.Formula

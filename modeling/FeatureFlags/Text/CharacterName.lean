import FeatureFlags.Text.CodeTable

/-!
# `FeatureFlags.Text.CharacterName` — characters by name

Every character of the Unicode standard has a name in capitals, and some have further names.  The
tables list them by ascending code point: an entry gives the code point, unless it is the next one,
then a digit that says how many characters its name shares with the beginning of the name before it,
then the rest of the name.  The names of Hangul syllables and of unified ideographs follow from
their code points and are not listed.

## Contents

1. The tables
2. Reading the tables
3. Names that follow from the code point
4. Looking a name up
-/

namespace FeatureFlags

namespace CharacterName

/-! ## The tables -/

/-- The names of characters. -/
def mainTable : String :=
  "20=0SPACE;0EXCLAMATION MARK;0QUOTATION MARK;0NUMBER SIGN;0DOLLAR SIGN;0PERCENT SIGN;
    0AMPERSAND;1POSTROPHE;0LEFT PARENTHESIS;0RIGHT PARENTHESIS;0ASTERISK;0PLUS SIGN;0COMMA;
    0HYPHEN-MINUS;0FULL STOP;0SOLIDUS;0DIGIT ZERO;6ONE;6TWO;7HREE;6FOUR;7IVE;6SIX;7EVEN;6EIGHT;
    6NINE;0COLON;0SEMICOLON;0LESS-THAN SIGN;0EQUALS SIGN;0GREATER-THAN SIGN;0QUESTION MARK;
    0COMMERCIAL AT;0LATIN CAPITAL LETTER A;lB;lC;lD;lE;lF;lG;lH;lI;lJ;lK;lL;lM;lN;lO;lP;lQ;lR;
    lS;lT;lU;lV;lW;lX;lY;lZ;1EFT SQUARE BRACKET;0REVERSE SOLIDUS;1IGHT SQUARE BRACKET;
    0CIRCUMFLEX ACCENT;0LOW LINE;0GRAVE ACCENT;0LATIN SMALL LETTER A;jB;jC;jD;jE;jF;jG;jH;jI;jJ;
    jK;jL;jM;jN;jO;jP;jQ;jR;jS;jT;jU;jV;jW;jX;jY;jZ;1EFT CURLY BRACKET;0VERTICAL LINE;
    0RIGHT CURLY BRACKET;0TILDE;A0=0NO-BREAK SPACE;0INVERTED EXCLAMATION MARK;0CENT SIGN;
    0POUND SIGN;0CURRENCY SIGN;0YEN SIGN;0BROKEN BAR;0SECTION SIGN;0DIAERESIS;0COPYRIGHT SIGN;
    0FEMININE ORDINAL INDICATOR;0LEFT-POINTING DOUBLE ANGLE QUOTATION MARK;0NOT SIGN;
    0SOFT HYPHEN;0REGISTERED SIGN;0MACRON;0DEGREE SIGN;0PLUS-MINUS SIGN;0SUPERSCRIPT TWO;dHREE;
    0ACUTE ACCENT;0MICRO SIGN;0PILCROW SIGN;0MIDDLE DOT;0CEDILLA;0SUPERSCRIPT ONE;
    0MASCULINE ORDINAL INDICATOR;0RIGHT-POINTING DOUBLE ANGLE QUOTATION MARK;
    0VULGAR FRACTION ONE QUARTER;kHALF;gTHREE QUARTERS;0INVERTED QUESTION MARK;
    0LATIN CAPITAL LETTER A WITH GRAVE;sACUTE;sCIRCUMFLEX;sTILDE;sDIAERESIS;sRING ABOVE;mE;
    lC WITH CEDILLA;lE WITH GRAVE;sACUTE;sCIRCUMFLEX;sDIAERESIS;lI WITH GRAVE;sACUTE;
    sCIRCUMFLEX;sDIAERESIS;lETH;lN WITH TILDE;lO WITH GRAVE;sACUTE;sCIRCUMFLEX;sTILDE;
    sDIAERESIS;0MULTIPLICATION SIGN;0LATIN CAPITAL LETTER O WITH STROKE;lU WITH GRAVE;sACUTE;
    sCIRCUMFLEX;sDIAERESIS;lY WITH ACUTE;lTHORN;6SMALL LETTER SHARP S;jA WITH GRAVE;qACUTE;
    qCIRCUMFLEX;qTILDE;qDIAERESIS;qRING ABOVE;kE;jC WITH CEDILLA;jE WITH GRAVE;qACUTE;
    qCIRCUMFLEX;qDIAERESIS;jI WITH GRAVE;qACUTE;qCIRCUMFLEX;qDIAERESIS;jETH;jN WITH TILDE;
    jO WITH GRAVE;qACUTE;qCIRCUMFLEX;qTILDE;qDIAERESIS;0DIVISION SIGN;
    0LATIN SMALL LETTER O WITH STROKE;jU WITH GRAVE;qACUTE;qCIRCUMFLEX;qDIAERESIS;jY WITH ACUTE;
    jTHORN;jY WITH DIAERESIS;6CAPITAL LETTER A WITH MACRON;6SMALL LETTER A WITH MACRON;
    6CAPITAL LETTER A WITH BREVE;6SMALL LETTER A WITH BREVE;6CAPITAL LETTER A WITH OGONEK;
    6SMALL LETTER A WITH OGONEK;6CAPITAL LETTER C WITH ACUTE;6SMALL LETTER C WITH ACUTE;
    6CAPITAL LETTER C WITH CIRCUMFLEX;6SMALL LETTER C WITH CIRCUMFLEX;
    6CAPITAL LETTER C WITH DOT ABOVE;6SMALL LETTER C WITH DOT ABOVE;
    6CAPITAL LETTER C WITH CARON;6SMALL LETTER C WITH CARON;6CAPITAL LETTER D WITH CARON;
    6SMALL LETTER D WITH CARON;6CAPITAL LETTER D WITH STROKE;6SMALL LETTER D WITH STROKE;
    6CAPITAL LETTER E WITH MACRON;6SMALL LETTER E WITH MACRON;6CAPITAL LETTER E WITH BREVE;
    6SMALL LETTER E WITH BREVE;6CAPITAL LETTER E WITH DOT ABOVE;6SMALL LETTER E WITH DOT ABOVE;
    6CAPITAL LETTER E WITH OGONEK;6SMALL LETTER E WITH OGONEK;6CAPITAL LETTER E WITH CARON;
    6SMALL LETTER E WITH CARON;6CAPITAL LETTER G WITH CIRCUMFLEX;
    6SMALL LETTER G WITH CIRCUMFLEX;6CAPITAL LETTER G WITH BREVE;6SMALL LETTER G WITH BREVE;
    6CAPITAL LETTER G WITH DOT ABOVE;6SMALL LETTER G WITH DOT ABOVE;
    6CAPITAL LETTER G WITH CEDILLA;6SMALL LETTER G WITH CEDILLA;
    6CAPITAL LETTER H WITH CIRCUMFLEX;6SMALL LETTER H WITH CIRCUMFLEX;
    6CAPITAL LETTER H WITH STROKE;6SMALL LETTER H WITH STROKE;6CAPITAL LETTER I WITH TILDE;
    6SMALL LETTER I WITH TILDE;6CAPITAL LETTER I WITH MACRON;6SMALL LETTER I WITH MACRON;
    6CAPITAL LETTER I WITH BREVE;6SMALL LETTER I WITH BREVE;6CAPITAL LETTER I WITH OGONEK;
    6SMALL LETTER I WITH OGONEK;6CAPITAL LETTER I WITH DOT ABOVE;6SMALL LETTER DOTLESS I;
    6CAPITAL LIGATURE IJ;6SMALL LIGATURE IJ;6CAPITAL LETTER J WITH CIRCUMFLEX;
    6SMALL LETTER J WITH CIRCUMFLEX;6CAPITAL LETTER K WITH CEDILLA;6SMALL LETTER K WITH CEDILLA;
    kRA;6CAPITAL LETTER L WITH ACUTE;6SMALL LETTER L WITH ACUTE;6CAPITAL LETTER L WITH CEDILLA;
    6SMALL LETTER L WITH CEDILLA;6CAPITAL LETTER L WITH CARON;6SMALL LETTER L WITH CARON;
    6CAPITAL LETTER L WITH MIDDLE DOT;6SMALL LETTER L WITH MIDDLE DOT;
    6CAPITAL LETTER L WITH STROKE;6SMALL LETTER L WITH STROKE;6CAPITAL LETTER N WITH ACUTE;
    6SMALL LETTER N WITH ACUTE;6CAPITAL LETTER N WITH CEDILLA;6SMALL LETTER N WITH CEDILLA;
    6CAPITAL LETTER N WITH CARON;6SMALL LETTER N WITH CARON;lPRECEDED BY APOSTROPHE;
    6CAPITAL LETTER ENG;6SMALL LETTER ENG;6CAPITAL LETTER O WITH MACRON;
    6SMALL LETTER O WITH MACRON;6CAPITAL LETTER O WITH BREVE;6SMALL LETTER O WITH BREVE;
    6CAPITAL LETTER O WITH DOUBLE ACUTE;6SMALL LETTER O WITH DOUBLE ACUTE;6CAPITAL LIGATURE OE;
    6SMALL LIGATURE OE;6CAPITAL LETTER R WITH ACUTE;6SMALL LETTER R WITH ACUTE;
    6CAPITAL LETTER R WITH CEDILLA;6SMALL LETTER R WITH CEDILLA;6CAPITAL LETTER R WITH CARON;
    6SMALL LETTER R WITH CARON;6CAPITAL LETTER S WITH ACUTE;6SMALL LETTER S WITH ACUTE;
    6CAPITAL LETTER S WITH CIRCUMFLEX;6SMALL LETTER S WITH CIRCUMFLEX;
    6CAPITAL LETTER S WITH CEDILLA;6SMALL LETTER S WITH CEDILLA;6CAPITAL LETTER S WITH CARON;
    6SMALL LETTER S WITH CARON;6CAPITAL LETTER T WITH CEDILLA;6SMALL LETTER T WITH CEDILLA;
    6CAPITAL LETTER T WITH CARON;6SMALL LETTER T WITH CARON;6CAPITAL LETTER T WITH STROKE;
    6SMALL LETTER T WITH STROKE;6CAPITAL LETTER U WITH TILDE;6SMALL LETTER U WITH TILDE;
    6CAPITAL LETTER U WITH MACRON;6SMALL LETTER U WITH MACRON;6CAPITAL LETTER U WITH BREVE;
    6SMALL LETTER U WITH BREVE;6CAPITAL LETTER U WITH RING ABOVE;
    6SMALL LETTER U WITH RING ABOVE;6CAPITAL LETTER U WITH DOUBLE ACUTE;
    6SMALL LETTER U WITH DOUBLE ACUTE;6CAPITAL LETTER U WITH OGONEK;6SMALL LETTER U WITH OGONEK;
    6CAPITAL LETTER W WITH CIRCUMFLEX;6SMALL LETTER W WITH CIRCUMFLEX;
    6CAPITAL LETTER Y WITH CIRCUMFLEX;6SMALL LETTER Y WITH CIRCUMFLEX;
    6CAPITAL LETTER Y WITH DIAERESIS;lZ WITH ACUTE;6SMALL LETTER Z WITH ACUTE;
    6CAPITAL LETTER Z WITH DOT ABOVE;6SMALL LETTER Z WITH DOT ABOVE;
    6CAPITAL LETTER Z WITH CARON;6SMALL LETTER Z WITH CARON;jLONG S;jB WITH STROKE;
    6CAPITAL LETTER B WITH HOOK;sTOPBAR;6SMALL LETTER B WITH TOPBAR;6CAPITAL LETTER TONE SIX;
    6SMALL LETTER TONE SIX;6CAPITAL LETTER OPEN O;lC WITH HOOK;6SMALL LETTER C WITH HOOK;
    6CAPITAL LETTER AFRICAN D;lD WITH HOOK;sTOPBAR;6SMALL LETTER D WITH TOPBAR;jTURNED DELTA;
    6CAPITAL LETTER REVERSED E;lSCHWA;lOPEN E;lF WITH HOOK;6SMALL LETTER F WITH HOOK;
    6CAPITAL LETTER G WITH HOOK;mAMMA;6SMALL LETTER HV;6CAPITAL LETTER IOTA;m WITH STROKE;
    lK WITH HOOK;6SMALL LETTER K WITH HOOK;jL WITH BAR;kAMBDA WITH STROKE;
    6CAPITAL LETTER TURNED M;lN WITH LEFT HOOK;6SMALL LETTER N WITH LONG RIGHT LEG;
    6CAPITAL LETTER O WITH MIDDLE TILDE;sHORN;6SMALL LETTER O WITH HORN;6CAPITAL LETTER OI;
    6SMALL LETTER OI;6CAPITAL LETTER P WITH HOOK;6SMALL LETTER P WITH HOOK;6LETTER YR;
    6CAPITAL LETTER TONE TWO;6SMALL LETTER TONE TWO;6CAPITAL LETTER ESH;
    6LETTER REVERSED ESH LOOP;6SMALL LETTER T WITH PALATAL HOOK;6CAPITAL LETTER T WITH HOOK;
    6SMALL LETTER T WITH HOOK;6CAPITAL LETTER T WITH RETROFLEX HOOK;lU WITH HORN;
    6SMALL LETTER U WITH HORN;6CAPITAL LETTER UPSILON;lV WITH HOOK;lY WITH HOOK;
    6SMALL LETTER Y WITH HOOK;6CAPITAL LETTER Z WITH STROKE;6SMALL LETTER Z WITH STROKE;
    6CAPITAL LETTER EZH;o REVERSED;6SMALL LETTER EZH REVERSED;nWITH TAIL;
    6LETTER TWO WITH STROKE;6CAPITAL LETTER TONE FIVE;6SMALL LETTER TONE FIVE;
    6LETTER INVERTED GLOTTAL STOP WITH STROKE;dWYNN;dDENTAL CLICK;dLATERAL CLICK;
    dALVEOLAR CLICK;dRETROFLEX CLICK;6CAPITAL LETTER DZ WITH CARON;
    m WITH SMALL LETTER Z WITH CARON;6SMALL LETTER DZ WITH CARON;6CAPITAL LETTER LJ;
    m WITH SMALL LETTER J;6SMALL LETTER LJ;6CAPITAL LETTER NJ;m WITH SMALL LETTER J;
    6SMALL LETTER NJ;6CAPITAL LETTER A WITH CARON;6SMALL LETTER A WITH CARON;
    6CAPITAL LETTER I WITH CARON;6SMALL LETTER I WITH CARON;6CAPITAL LETTER O WITH CARON;
    6SMALL LETTER O WITH CARON;6CAPITAL LETTER U WITH CARON;6SMALL LETTER U WITH CARON;
    6CAPITAL LETTER U WITH DIAERESIS AND MACRON;6SMALL LETTER U WITH DIAERESIS AND MACRON;
    6CAPITAL LETTER U WITH DIAERESIS AND ACUTE;6SMALL LETTER U WITH DIAERESIS AND ACUTE;
    6CAPITAL LETTER U WITH DIAERESIS AND CARON;6SMALL LETTER U WITH DIAERESIS AND CARON;
    6CAPITAL LETTER U WITH DIAERESIS AND GRAVE;6SMALL LETTER U WITH DIAERESIS AND GRAVE;
    jTURNED E;6CAPITAL LETTER A WITH DIAERESIS AND MACRON;
    6SMALL LETTER A WITH DIAERESIS AND MACRON;6CAPITAL LETTER A WITH DOT ABOVE AND MACRON;
    6SMALL LETTER A WITH DOT ABOVE AND MACRON;6CAPITAL LETTER AE WITH MACRON;
    6SMALL LETTER AE WITH MACRON;6CAPITAL LETTER G WITH STROKE;6SMALL LETTER G WITH STROKE;
    6CAPITAL LETTER G WITH CARON;6SMALL LETTER G WITH CARON;6CAPITAL LETTER K WITH CARON;
    6SMALL LETTER K WITH CARON;6CAPITAL LETTER O WITH OGONEK;6SMALL LETTER O WITH OGONEK;
    6CAPITAL LETTER O WITH OGONEK AND MACRON;6SMALL LETTER O WITH OGONEK AND MACRON;
    6CAPITAL LETTER EZH WITH CARON;6SMALL LETTER EZH WITH CARON;jJ WITH CARON;
    6CAPITAL LETTER DZ;m WITH SMALL LETTER Z;6SMALL LETTER DZ;6CAPITAL LETTER G WITH ACUTE;
    6SMALL LETTER G WITH ACUTE;6CAPITAL LETTER HWAIR;lWYNN;lN WITH GRAVE;
    6SMALL LETTER N WITH GRAVE;6CAPITAL LETTER A WITH RING ABOVE AND ACUTE;
    6SMALL LETTER A WITH RING ABOVE AND ACUTE;6CAPITAL LETTER AE WITH ACUTE;
    6SMALL LETTER AE WITH ACUTE;6CAPITAL LETTER O WITH STROKE AND ACUTE;
    6SMALL LETTER O WITH STROKE AND ACUTE;6CAPITAL LETTER A WITH DOUBLE GRAVE;
    6SMALL LETTER A WITH DOUBLE GRAVE;6CAPITAL LETTER A WITH INVERTED BREVE;
    6SMALL LETTER A WITH INVERTED BREVE;6CAPITAL LETTER E WITH DOUBLE GRAVE;
    6SMALL LETTER E WITH DOUBLE GRAVE;6CAPITAL LETTER E WITH INVERTED BREVE;
    6SMALL LETTER E WITH INVERTED BREVE;6CAPITAL LETTER I WITH DOUBLE GRAVE;
    6SMALL LETTER I WITH DOUBLE GRAVE;6CAPITAL LETTER I WITH INVERTED BREVE;
    6SMALL LETTER I WITH INVERTED BREVE;6CAPITAL LETTER O WITH DOUBLE GRAVE;
    6SMALL LETTER O WITH DOUBLE GRAVE;6CAPITAL LETTER O WITH INVERTED BREVE;
    6SMALL LETTER O WITH INVERTED BREVE;6CAPITAL LETTER R WITH DOUBLE GRAVE;
    6SMALL LETTER R WITH DOUBLE GRAVE;6CAPITAL LETTER R WITH INVERTED BREVE;
    6SMALL LETTER R WITH INVERTED BREVE;6CAPITAL LETTER U WITH DOUBLE GRAVE;
    6SMALL LETTER U WITH DOUBLE GRAVE;6CAPITAL LETTER U WITH INVERTED BREVE;
    6SMALL LETTER U WITH INVERTED BREVE;6CAPITAL LETTER S WITH COMMA BELOW;
    6SMALL LETTER S WITH COMMA BELOW;6CAPITAL LETTER T WITH COMMA BELOW;
    6SMALL LETTER T WITH COMMA BELOW;6CAPITAL LETTER YOGH;6SMALL LETTER YOGH;
    6CAPITAL LETTER H WITH CARON;6SMALL LETTER H WITH CARON;
    6CAPITAL LETTER N WITH LONG RIGHT LEG;6SMALL LETTER D WITH CURL;6CAPITAL LETTER OU;
    6SMALL LETTER OU;6CAPITAL LETTER Z WITH HOOK;6SMALL LETTER Z WITH HOOK;
    6CAPITAL LETTER A WITH DOT ABOVE;6SMALL LETTER A WITH DOT ABOVE;
    6CAPITAL LETTER E WITH CEDILLA;6SMALL LETTER E WITH CEDILLA;
    6CAPITAL LETTER O WITH DIAERESIS AND MACRON;6SMALL LETTER O WITH DIAERESIS AND MACRON;
    6CAPITAL LETTER O WITH TILDE AND MACRON;6SMALL LETTER O WITH TILDE AND MACRON;
    6CAPITAL LETTER O WITH DOT ABOVE;6SMALL LETTER O WITH DOT ABOVE;
    6CAPITAL LETTER O WITH DOT ABOVE AND MACRON;6SMALL LETTER O WITH DOT ABOVE AND MACRON;
    6CAPITAL LETTER Y WITH MACRON;6SMALL LETTER Y WITH MACRON;jL WITH CURL;jN WITH CURL;
    jT WITH CURL;jDOTLESS J;kB DIGRAPH;jQP DIGRAPH;6CAPITAL LETTER A WITH STROKE;lC WITH STROKE;
    6SMALL LETTER C WITH STROKE;6CAPITAL LETTER L WITH BAR;lT WITH DIAGONAL STROKE;
    6SMALL LETTER S WITH SWASH TAIL;jZ WITH SWASH TAIL;6CAPITAL LETTER GLOTTAL STOP;
    6SMALL LETTER GLOTTAL STOP;6CAPITAL LETTER B WITH STROKE;lU BAR;lTURNED V;lE WITH STROKE;
    6SMALL LETTER E WITH STROKE;6CAPITAL LETTER J WITH STROKE;6SMALL LETTER J WITH STROKE;
    6CAPITAL LETTER SMALL Q WITH HOOK TAIL;6SMALL LETTER Q WITH HOOK TAIL;
    6CAPITAL LETTER R WITH STROKE;6SMALL LETTER R WITH STROKE;6CAPITAL LETTER Y WITH STROKE;
    6SMALL LETTER Y WITH STROKE;jTURNED A;jALPHA;jTURNED ALPHA;jB WITH HOOK;jOPEN O;
    jC WITH CURL;jD WITH TAIL;qHOOK;jREVERSED E;jSCHWA;o WITH HOOK;jOPEN E;jREVERSED OPEN E;
    y WITH HOOK;jCLOSED REVERSED OPEN E;jDOTLESS J WITH STROKE;jG WITH HOOK;jSCRIPT G;
    6LETTER SMALL CAPITAL G;6SMALL LETTER GAMMA;jRAMS HORN;jTURNED H;jH WITH HOOK;
    kENG WITH HOOK;jI WITH STROKE;kOTA;6LETTER SMALL CAPITAL I;
    6SMALL LETTER L WITH MIDDLE TILDE;qBELT;qRETROFLEX HOOK;kEZH;jTURNED M;r WITH LONG LEG;
    jM WITH HOOK;jN WITH LEFT HOOK;qRETROFLEX HOOK;6LETTER SMALL CAPITAL N;
    6SMALL LETTER BARRED O;6LETTER SMALL CAPITAL OE;6SMALL LETTER CLOSED OMEGA;jPHI;jTURNED R;
    r WITH LONG LEG;xHOOK;jR WITH LONG LEG;qTAIL;qFISHHOOK;kEVERSED R WITH FISHHOOK;
    6LETTER SMALL CAPITAL R;rINVERTED R;6SMALL LETTER S WITH HOOK;jESH;
    jDOTLESS J WITH STROKE AND HOOK;jSQUAT REVERSED ESH;jESH WITH CURL;jTURNED T;
    k WITH RETROFLEX HOOK;jU BAR;kPSILON;jV WITH HOOK;jTURNED V;qW;qY;6LETTER SMALL CAPITAL Y;
    6SMALL LETTER Z WITH RETROFLEX HOOK;qCURL;jEZH;m WITH CURL;6LETTER GLOTTAL STOP;
    dPHARYNGEAL VOICED FRICATIVE;dINVERTED GLOTTAL STOP;dSTRETCHED C;dBILABIAL CLICK;
    dSMALL CAPITAL B;6SMALL LETTER CLOSED OPEN E;6LETTER SMALL CAPITAL G WITH HOOK;rH;
    6SMALL LETTER J WITH CROSSED-TAIL;jTURNED K;6LETTER SMALL CAPITAL L;
    6SMALL LETTER Q WITH HOOK;6LETTER GLOTTAL STOP WITH STROKE;
    dREVERSED GLOTTAL STOP WITH STROKE;6SMALL LETTER DZ DIGRAPH;kEZH DIGRAPH;
    kZ DIGRAPH WITH CURL;jTS DIGRAPH;kESH DIGRAPH;kC DIGRAPH WITH CURL;jFENG DIGRAPH;
    jLS DIGRAPH;kZ DIGRAPH;6LETTER BILABIAL PERCUSSIVE;fDENTAL PERCUSSIVE;
    6SMALL LETTER TURNED H WITH FISHHOOK;F AND TAIL;0MODIFIER LETTER SMALL H;n WITH HOOK;mJ;mR;
    mTURNED R;u WITH HOOK;mCAPITAL INVERTED R;mW;mY;gPRIME;gDOUBLE PRIME;gTURNED COMMA;
    gAPOSTROPHE;gREVERSED COMMA;hIGHT HALF RING;gLEFT HALF RING;gGLOTTAL STOP;
    gREVERSED GLOTTAL STOP;gLEFT ARROWHEAD;gRIGHT ARROWHEAD;gUP ARROWHEAD;gDOWN ARROWHEAD;
    gCIRCUMFLEX ACCENT;0CARON;0MODIFIER LETTER VERTICAL LINE;gMACRON;gACUTE ACCENT;
    gGRAVE ACCENT;gLOW VERTICAL LINE;kMACRON;kGRAVE ACCENT;kACUTE ACCENT;gTRIANGULAR COLON;
    gHALF TRIANGULAR COLON;gCENTRED RIGHT HALF RING;oLEFT HALF RING;gUP TACK;gDOWN TACK;
    gPLUS SIGN;gMINUS SIGN;0BREVE;0DOT ABOVE;0RING ABOVE;0OGONEK;0SMALL TILDE;
    0DOUBLE ACUTE ACCENT;0MODIFIER LETTER RHOTIC HOOK;gCROSS ACCENT;gSMALL GAMMA;mL;mS;mX;
    mREVERSED GLOTTAL STOP;gEXTRA-HIGH TONE BAR;gHIGH TONE BAR;gMID TONE BAR;gLOW TONE BAR;
    gEXTRA-LOW TONE BAR;gYIN DEPARTING TONE MARK;hANG DEPARTING TONE MARK;gVOICING;gUNASPIRATED;
    gDOUBLE APOSTROPHE;gLOW DOWN ARROWHEAD;kUP ARROWHEAD;kLEFT ARROWHEAD;kRIGHT ARROWHEAD;mNG;
    gMIDDLE GRAVE ACCENT;nDOUBLE GRAVE ACCENT;uACUTE ACCENT;gLOW TILDE;gRAISED COLON;
    gBEGIN HIGH TONE;gEND HIGH TONE;gBEGIN LOW TONE;gEND LOW TONE;gSHELF;gOPEN SHELF;
    gLOW LEFT ARROW;0COMBINING GRAVE ACCENT;aACUTE ACCENT;aCIRCUMFLEX ACCENT;aTILDE;aMACRON;
    aOVERLINE;aBREVE;aDOT ABOVE;bIAERESIS;aHOOK ABOVE;aRING ABOVE;aDOUBLE ACUTE ACCENT;aCARON;
    aVERTICAL LINE ABOVE;aDOUBLE VERTICAL LINE ABOVE;hGRAVE ACCENT;aCANDRABINDU;aINVERTED BREVE;
    aTURNED COMMA ABOVE;aCOMMA ABOVE;aREVERSED COMMA ABOVE;aCOMMA ABOVE RIGHT;
    aGRAVE ACCENT BELOW;aACUTE ACCENT BELOW;aLEFT TACK BELOW;aRIGHT TACK BELOW;
    aLEFT ANGLE ABOVE;aHORN;aLEFT HALF RING BELOW;aUP TACK BELOW;aDOWN TACK BELOW;
    aPLUS SIGN BELOW;aMINUS SIGN BELOW;aPALATALIZED HOOK BELOW;aRETROFLEX HOOK BELOW;aDOT BELOW;
    bIAERESIS BELOW;aRING BELOW;aCOMMA BELOW;bEDILLA;aOGONEK;aVERTICAL LINE BELOW;aBRIDGE BELOW;
    aINVERTED DOUBLE ARCH BELOW;aCARON BELOW;bIRCUMFLEX ACCENT BELOW;aBREVE BELOW;
    aINVERTED BREVE BELOW;aTILDE BELOW;aMACRON BELOW;aLOW LINE;aDOUBLE LOW LINE;aTILDE OVERLAY;
    aSHORT STROKE OVERLAY;aLONG STROKE OVERLAY;aSHORT SOLIDUS OVERLAY;aLONG SOLIDUS OVERLAY;
    aRIGHT HALF RING BELOW;aINVERTED BRIDGE BELOW;aSQUARE BELOW;bEAGULL BELOW;aX ABOVE;
    aVERTICAL TILDE;aDOUBLE OVERLINE;aGRAVE TONE MARK;aACUTE TONE MARK;aGREEK PERISPOMENI;
    gKORONIS;gDIALYTIKA TONOS;gYPOGEGRAMMENI;aBRIDGE ABOVE;aEQUALS SIGN BELOW;
    aDOUBLE VERTICAL LINE BELOW;aLEFT ANGLE BELOW;aNOT TILDE ABOVE;aHOMOTHETIC ABOVE;
    aALMOST EQUAL TO ABOVE;aLEFT RIGHT ARROW BELOW;aUPWARDS ARROW BELOW;aGRAPHEME JOINER;
    aRIGHT ARROWHEAD ABOVE;aLEFT HALF RING ABOVE;aFERMATA;aX BELOW;aLEFT ARROWHEAD BELOW;
    aRIGHT ARROWHEAD BELOW;qAND UP ARROWHEAD BELOW;gHALF RING ABOVE;aDOT ABOVE RIGHT;
    aASTERISK BELOW;aDOUBLE RING BELOW;aZIGZAG ABOVE;aDOUBLE BREVE BELOW;m;hMACRON;n BELOW;
    hTILDE;hINVERTED BREVE;hRIGHTWARDS ARROW BELOW;aLATIN SMALL LETTER A;tE;tI;tO;tU;tC;tD;tH;
    tM;tR;tT;tV;tX;0GREEK CAPITAL LETTER HETA;6SMALL LETTER HETA;6CAPITAL LETTER ARCHAIC SAMPI;
    6SMALL LETTER ARCHAIC SAMPI;6NUMERAL SIGN;6LOWER NUMERAL SIGN;
    6CAPITAL LETTER PAMPHYLIAN DIGAMMA;6SMALL LETTER PAMPHYLIAN DIGAMMA;37A=6YPOGEGRAMMENI;
    6SMALL REVERSED LUNATE SIGMA SYMBOL;cDOTTED LUNATE SIGMA SYMBOL;
    cREVERSED DOTTED LUNATE SIGMA SYMBOL;6QUESTION MARK;6CAPITAL LETTER YOT;384=6TONOS;
    6DIALYTIKA TONOS;6CAPITAL LETTER ALPHA WITH TONOS;6ANO TELEIA;
    6CAPITAL LETTER EPSILON WITH TONOS;mTA WITH TONOS;lIOTA WITH TONOS;38C=lOMICRON WITH TONOS;
    38E=lUPSILON WITH TONOS;lOMEGA WITH TONOS;6SMALL LETTER IOTA WITH DIALYTIKA AND TONOS;
    6CAPITAL LETTER ALPHA;lBETA;lGAMMA;lDELTA;lEPSILON;lZETA;lETA;lTHETA;lIOTA;lKAPPA;lLAMDA;
    lMU;lNU;lXI;lOMICRON;lPI;lRHO;3A3=lSIGMA;lTAU;lUPSILON;lPHI;lCHI;lPSI;lOMEGA;
    lIOTA WITH DIALYTIKA;lUPSILON WITH DIALYTIKA;6SMALL LETTER ALPHA WITH TONOS;
    jEPSILON WITH TONOS;kTA WITH TONOS;jIOTA WITH TONOS;jUPSILON WITH DIALYTIKA AND TONOS;
    jALPHA;jBETA;jGAMMA;jDELTA;jEPSILON;jZETA;jETA;jTHETA;jIOTA;jKAPPA;jLAMDA;jMU;jNU;jXI;
    jOMICRON;jPI;jRHO;jFINAL SIGMA;jSIGMA;jTAU;jUPSILON;jPHI;jCHI;jPSI;jOMEGA;
    jIOTA WITH DIALYTIKA;jUPSILON WITH DIALYTIKA;jOMICRON WITH TONOS;jUPSILON WITH TONOS;
    jOMEGA WITH TONOS;6CAPITAL KAI SYMBOL;6BETA SYMBOL;6THETA SYMBOL;6UPSILON WITH HOOK SYMBOL;
    jACUTE AND HOOK SYMBOL;jDIAERESIS AND HOOK SYMBOL;6PHI SYMBOL;7I SYMBOL;6KAI SYMBOL;
    6LETTER ARCHAIC KOPPA;6SMALL LETTER ARCHAIC KOPPA;6LETTER STIGMA;6SMALL LETTER STIGMA;
    6LETTER DIGAMMA;6SMALL LETTER DIGAMMA;6LETTER KOPPA;6SMALL LETTER KOPPA;6LETTER SAMPI;
    6SMALL LETTER SAMPI;0COPTIC CAPITAL LETTER SHEI;7SMALL LETTER SHEI;7CAPITAL LETTER FEI;
    7SMALL LETTER FEI;7CAPITAL LETTER KHEI;7SMALL LETTER KHEI;7CAPITAL LETTER HORI;
    7SMALL LETTER HORI;7CAPITAL LETTER GANGIA;7SMALL LETTER GANGIA;7CAPITAL LETTER SHIMA;
    7SMALL LETTER SHIMA;7CAPITAL LETTER DEI;7SMALL LETTER DEI;0GREEK KAPPA SYMBOL;6RHO SYMBOL;
    6LUNATE SIGMA SYMBOL;7ETTER YOT;6CAPITAL THETA SYMBOL;6LUNATE EPSILON SYMBOL;
    6REVERSED LUNATE EPSILON SYMBOL;6CAPITAL LETTER SHO;6SMALL LETTER SHO;
    6CAPITAL LUNATE SIGMA SYMBOL;fETTER SAN;6SMALL LETTER SAN;6RHO WITH STROKE SYMBOL;
    6CAPITAL REVERSED LUNATE SIGMA SYMBOL;eDOTTED LUNATE SIGMA SYMBOL;
    eREVERSED DOTTED LUNATE SIGMA SYMBOL;0CYRILLIC CAPITAL LETTER IE WITH GRAVE;pO;oDJE;oGJE;
    oUKRAINIAN IE;oDZE;oBYELORUSSIAN-UKRAINIAN I;oYI;oJE;oLJE;oNJE;oTSHE;oKJE;oI WITH GRAVE;
    oSHORT U;oDZHE;oA;oBE;oVE;oGHE;oDE;oIE;oZHE;pE;oI;oSHORT I;oKA;oEL;pM;pN;oO;oPE;oER;pS;oTE;
    oU;oEF;oHA;oTSE;oCHE;oSHA;qCHA;oHARD SIGN;oYERU;oSOFT SIGN;oE;oYU;pA;9SMALL LETTER A;mBE;
    mVE;mGHE;mDE;mIE;mZHE;nE;mI;mSHORT I;mKA;mEL;nM;nN;mO;mPE;mER;nS;mTE;mU;mEF;mHA;mTSE;mCHE;
    mSHA;oCHA;mHARD SIGN;mYERU;mSOFT SIGN;mE;mYU;nA;mIE WITH GRAVE;nO;mDJE;mGJE;mUKRAINIAN IE;
    mDZE;mBYELORUSSIAN-UKRAINIAN I;mYI;mJE;mLJE;mNJE;mTSHE;mKJE;mI WITH GRAVE;mSHORT U;mDZHE;
    9CAPITAL LETTER OMEGA;9SMALL LETTER OMEGA;9CAPITAL LETTER YAT;9SMALL LETTER YAT;
    9CAPITAL LETTER IOTIFIED E;9SMALL LETTER IOTIFIED E;9CAPITAL LETTER LITTLE YUS;
    9SMALL LETTER LITTLE YUS;9CAPITAL LETTER IOTIFIED LITTLE YUS;
    9SMALL LETTER IOTIFIED LITTLE YUS;9CAPITAL LETTER BIG YUS;9SMALL LETTER BIG YUS;
    9CAPITAL LETTER IOTIFIED BIG YUS;9SMALL LETTER IOTIFIED BIG YUS;9CAPITAL LETTER KSI;
    9SMALL LETTER KSI;9CAPITAL LETTER PSI;9SMALL LETTER PSI;9CAPITAL LETTER FITA;
    9SMALL LETTER FITA;9CAPITAL LETTER IZHITSA;9SMALL LETTER IZHITSA;
    9CAPITAL LETTER IZHITSA WITH DOUBLE GRAVE ACCENT;
    9SMALL LETTER IZHITSA WITH DOUBLE GRAVE ACCENT;9CAPITAL LETTER UK;9SMALL LETTER UK;
    9CAPITAL LETTER ROUND OMEGA;9SMALL LETTER ROUND OMEGA;9CAPITAL LETTER OMEGA WITH TITLO;
    9SMALL LETTER OMEGA WITH TITLO;9CAPITAL LETTER OT;9SMALL LETTER OT;9CAPITAL LETTER KOPPA;
    9SMALL LETTER KOPPA;9THOUSANDS SIGN;1OMBINING CYRILLIC TITLO;jPALATALIZATION;
    jDASIA PNEUMATA;jPSILI PNEUMATA;kOKRYTIE;jHUNDRED THOUSANDS SIGN;jMILLIONS SIGN;
    1YRILLIC CAPITAL LETTER SHORT I WITH TAIL;9SMALL LETTER SHORT I WITH TAIL;
    9CAPITAL LETTER SEMISOFT SIGN;9SMALL LETTER SEMISOFT SIGN;9CAPITAL LETTER ER WITH TICK;
    9SMALL LETTER ER WITH TICK;9CAPITAL LETTER GHE WITH UPTURN;9SMALL LETTER GHE WITH UPTURN;
    9CAPITAL LETTER GHE WITH STROKE;9SMALL LETTER GHE WITH STROKE;
    9CAPITAL LETTER GHE WITH MIDDLE HOOK;9SMALL LETTER GHE WITH MIDDLE HOOK;
    9CAPITAL LETTER ZHE WITH DESCENDER;9SMALL LETTER ZHE WITH DESCENDER;
    9CAPITAL LETTER ZE WITH DESCENDER;9SMALL LETTER ZE WITH DESCENDER;
    9CAPITAL LETTER KA WITH DESCENDER;9SMALL LETTER KA WITH DESCENDER;
    9CAPITAL LETTER KA WITH VERTICAL STROKE;9SMALL LETTER KA WITH VERTICAL STROKE;
    9CAPITAL LETTER KA WITH STROKE;9SMALL LETTER KA WITH STROKE;9CAPITAL LETTER BASHKIR KA;
    9SMALL LETTER BASHKIR KA;9CAPITAL LETTER EN WITH DESCENDER;9SMALL LETTER EN WITH DESCENDER;
    9CAPITAL LIGATURE EN GHE;9SMALL LIGATURE EN GHE;9CAPITAL LETTER PE WITH MIDDLE HOOK;
    9SMALL LETTER PE WITH MIDDLE HOOK;9CAPITAL LETTER ABKHASIAN HA;9SMALL LETTER ABKHASIAN HA;
    9CAPITAL LETTER ES WITH DESCENDER;9SMALL LETTER ES WITH DESCENDER;
    9CAPITAL LETTER TE WITH DESCENDER;9SMALL LETTER TE WITH DESCENDER;
    9CAPITAL LETTER STRAIGHT U;9SMALL LETTER STRAIGHT U;9CAPITAL LETTER STRAIGHT U WITH STROKE;
    9SMALL LETTER STRAIGHT U WITH STROKE;9CAPITAL LETTER HA WITH DESCENDER;
    9SMALL LETTER HA WITH DESCENDER;9CAPITAL LIGATURE TE TSE;9SMALL LIGATURE TE TSE;
    9CAPITAL LETTER CHE WITH DESCENDER;9SMALL LETTER CHE WITH DESCENDER;
    9CAPITAL LETTER CHE WITH VERTICAL STROKE;9SMALL LETTER CHE WITH VERTICAL STROKE;
    9CAPITAL LETTER SHHA;9SMALL LETTER SHHA;9CAPITAL LETTER ABKHASIAN CHE;
    9SMALL LETTER ABKHASIAN CHE;9CAPITAL LETTER ABKHASIAN CHE WITH DESCENDER;
    9SMALL LETTER ABKHASIAN CHE WITH DESCENDER;9LETTER PALOCHKA;9CAPITAL LETTER ZHE WITH BREVE;
    9SMALL LETTER ZHE WITH BREVE;9CAPITAL LETTER KA WITH HOOK;9SMALL LETTER KA WITH HOOK;
    9CAPITAL LETTER EL WITH TAIL;9SMALL LETTER EL WITH TAIL;9CAPITAL LETTER EN WITH HOOK;
    9SMALL LETTER EN WITH HOOK;9CAPITAL LETTER EN WITH TAIL;9SMALL LETTER EN WITH TAIL;
    9CAPITAL LETTER KHAKASSIAN CHE;9SMALL LETTER KHAKASSIAN CHE;9CAPITAL LETTER EM WITH TAIL;
    9SMALL LETTER EM WITH TAIL;mPALOCHKA;9CAPITAL LETTER A WITH BREVE;
    9SMALL LETTER A WITH BREVE;9CAPITAL LETTER A WITH DIAERESIS;9SMALL LETTER A WITH DIAERESIS;
    9CAPITAL LIGATURE A IE;9SMALL LIGATURE A IE;9CAPITAL LETTER IE WITH BREVE;
    9SMALL LETTER IE WITH BREVE;9CAPITAL LETTER SCHWA;9SMALL LETTER SCHWA;
    9CAPITAL LETTER SCHWA WITH DIAERESIS;9SMALL LETTER SCHWA WITH DIAERESIS;
    9CAPITAL LETTER ZHE WITH DIAERESIS;9SMALL LETTER ZHE WITH DIAERESIS;
    9CAPITAL LETTER ZE WITH DIAERESIS;9SMALL LETTER ZE WITH DIAERESIS;
    9CAPITAL LETTER ABKHASIAN DZE;9SMALL LETTER ABKHASIAN DZE;9CAPITAL LETTER I WITH MACRON;
    9SMALL LETTER I WITH MACRON;9CAPITAL LETTER I WITH DIAERESIS;9SMALL LETTER I WITH DIAERESIS;
    9CAPITAL LETTER O WITH DIAERESIS;9SMALL LETTER O WITH DIAERESIS;9CAPITAL LETTER BARRED O;
    9SMALL LETTER BARRED O;9CAPITAL LETTER BARRED O WITH DIAERESIS;
    9SMALL LETTER BARRED O WITH DIAERESIS;9CAPITAL LETTER E WITH DIAERESIS;
    9SMALL LETTER E WITH DIAERESIS;9CAPITAL LETTER U WITH MACRON;9SMALL LETTER U WITH MACRON;
    9CAPITAL LETTER U WITH DIAERESIS;9SMALL LETTER U WITH DIAERESIS;
    9CAPITAL LETTER U WITH DOUBLE ACUTE;9SMALL LETTER U WITH DOUBLE ACUTE;
    9CAPITAL LETTER CHE WITH DIAERESIS;9SMALL LETTER CHE WITH DIAERESIS;
    9CAPITAL LETTER GHE WITH DESCENDER;9SMALL LETTER GHE WITH DESCENDER;
    9CAPITAL LETTER YERU WITH DIAERESIS;9SMALL LETTER YERU WITH DIAERESIS;
    9CAPITAL LETTER GHE WITH STROKE AND HOOK;9SMALL LETTER GHE WITH STROKE AND HOOK;
    9CAPITAL LETTER HA WITH HOOK;9SMALL LETTER HA WITH HOOK;9CAPITAL LETTER HA WITH STROKE;
    9SMALL LETTER HA WITH STROKE;9CAPITAL LETTER KOMI DE;9SMALL LETTER KOMI DE;
    9CAPITAL LETTER KOMI DJE;9SMALL LETTER KOMI DJE;9CAPITAL LETTER KOMI ZJE;
    9SMALL LETTER KOMI ZJE;9CAPITAL LETTER KOMI DZJE;9SMALL LETTER KOMI DZJE;
    9CAPITAL LETTER KOMI LJE;9SMALL LETTER KOMI LJE;9CAPITAL LETTER KOMI NJE;
    9SMALL LETTER KOMI NJE;9CAPITAL LETTER KOMI SJE;9SMALL LETTER KOMI SJE;
    9CAPITAL LETTER KOMI TJE;9SMALL LETTER KOMI TJE;9CAPITAL LETTER REVERSED ZE;
    9SMALL LETTER REVERSED ZE;9CAPITAL LETTER EL WITH HOOK;9SMALL LETTER EL WITH HOOK;
    9CAPITAL LETTER LHA;9SMALL LETTER LHA;9CAPITAL LETTER RHA;9SMALL LETTER RHA;
    9CAPITAL LETTER YAE;9SMALL LETTER YAE;9CAPITAL LETTER QA;9SMALL LETTER QA;
    9CAPITAL LETTER WE;9SMALL LETTER WE;9CAPITAL LETTER ALEUT KA;9SMALL LETTER ALEUT KA;
    9CAPITAL LETTER EL WITH MIDDLE HOOK;9SMALL LETTER EL WITH MIDDLE HOOK;
    9CAPITAL LETTER EN WITH MIDDLE HOOK;9SMALL LETTER EN WITH MIDDLE HOOK;
    9CAPITAL LETTER PE WITH DESCENDER;9SMALL LETTER PE WITH DESCENDER;
    9CAPITAL LETTER SHHA WITH DESCENDER;9SMALL LETTER SHHA WITH DESCENDER;
    9CAPITAL LETTER EN WITH LEFT HOOK;9SMALL LETTER EN WITH LEFT HOOK;9CAPITAL LETTER DZZHE;
    9SMALL LETTER DZZHE;9CAPITAL LETTER DCHE;9SMALL LETTER DCHE;
    9CAPITAL LETTER EL WITH DESCENDER;9SMALL LETTER EL WITH DESCENDER;
    531=0ARMENIAN CAPITAL LETTER AYB;oBEN;oGIM;oDA;oECH;oZA;oEH;pT;oTO;oZHE;oINI;oLIWN;oXEH;oCA;
    oKEN;oHO;oJA;oGHAD;oCHEH;oMEN;oYI;oNOW;oSHA;oVO;oCHA;oPEH;oJHEH;oRA;oSEH;oVEW;oTIWN;oREH;
    oCO;oYIWN;oPIWR;oKEH;oOH;oFEH;559=9MODIFIER LETTER LEFT HALF RING;9APOSTROPHE;
    9EMPHASIS MARK;aXCLAMATION MARK;9COMMA;9QUESTION MARK;9ABBREVIATION MARK;
    9SMALL LETTER TURNED AYB;mAYB;mBEN;mGIM;mDA;mECH;mZA;mEH;nT;mTO;mZHE;mINI;mLIWN;mXEH;mCA;
    mKEN;mHO;mJA;mGHAD;mCHEH;mMEN;mYI;mNOW;mSHA;mVO;mCHA;mPEH;mJHEH;mRA;mSEH;mVEW;mTIWN;mREH;
    mCO;mYIWN;mPIWR;mKEH;mOH;mFEH;gIGATURE ECH YIWN;gETTER YI WITH STROKE;9FULL STOP;9HYPHEN;
    58D=0RIGHT-FACING ARMENIAN ETERNITY SIGN;0LEFT-FACING ARMENIAN ETERNITY SIGN;
    0ARMENIAN DRAM SIGN;591=0HEBREW ACCENT ETNAHTA;eSEGOL;fHALSHELET;eZAQEF QATAN;kGADOL;
    eTIPEHA;eREVIA;eZARQA;ePASHTA;eYETIV;eTEVIR;eGERESH;k MUQDAM;hSHAYIM;eQARNEY PARA;
    eTELISHA GEDOLA;ePAZER;eATNAH HAFUKH;eMUNAH;fAHAPAKH;fERKHA;k KEFULA;eDARGA;eQADMA;
    eTELISHA QETANA;eYERAH BEN YOMO;eOLE;eILUY;eDEHI;eZINOR;7MARK MASORA CIRCLE;7POINT SHEVA;
    dHATAF SEGOL;jPATAH;jQAMATS;eIRIQ;dTSERE;dSEGOL;dPATAH;dQAMATS;dHOLAM;i HASER FOR VAV;
    dQUBUTS;dDAGESH OR MAPIQ;dMETEG;8UNCTUATION MAQAF;8OINT RAFE;8UNCTUATION PASEQ;
    8OINT SHIN DOT;eIN DOT;8UNCTUATION SOF PASUQ;7MARK UPPER DOT;cLOWER DOT;
    7PUNCTUATION NUN HAFUKHA;8OINT QAMATS QATAN;5D0=7LETTER ALEF;eBET;eGIMEL;eDALET;eHE;eVAV;
    eZAYIN;eHET;eTET;eYOD;eFINAL KAF;eKAF;eLAMED;eFINAL MEM;eMEM;eFINAL NUN;eNUN;eSAMEKH;eAYIN;
    eFINAL PE;ePE;eFINAL TSADI;eTSADI;eQOF;eRESH;eSHIN;eTAV;5EF=7YOD TRIANGLE;
    7LIGATURE YIDDISH DOUBLE VAV;oVAV YOD;oDOUBLE YOD;7PUNCTUATION GERESH;mSHAYIM;
    600=0ARABIC NUMBER SIGN;7SIGN SANAH;7FOOTNOTE MARKER;7SIGN SAFHA;eMVAT;7NUMBER MARK ABOVE;
    6-INDIC CUBE ROOT;dFOURTH ROOT;6 RAY;6-INDIC PER MILLE SIGN;hTEN THOUSAND SIGN;1FGHANI SIGN;
    1RABIC COMMA;7DATE SEPARATOR;7POETIC VERSE SIGN;7SIGN MISRA;cSALLALLAHOU ALAYHE WASSALLAM;
    cALAYHE ASSALLAM;cRAHMATULLAH ALAYHE;eDI ALLAHOU ANHU;cTAKHALLUS;8MALL HIGH TAH;
    iLIGATURE ALEF WITH LAM WITH YEH;iZAIN;dFATHA;dDAMMA;dKASRA;8EMICOLON;7LETTER MARK;
    7END OF TEXT MARK;7TRIPLE DOT PUNCTUATION MARK;7QUESTION MARK;7LETTER KASHMIRI YEH;eHAMZA;
    eALEF WITH MADDA ABOVE;oHAMZA ABOVE;eWAW WITH HAMZA ABOVE;eALEF WITH HAMZA BELOW;
    eYEH WITH HAMZA ABOVE;eALEF;eBEH;eTEH MARBUTA;h;fHEH;eJEEM;eHAH;eKHAH;eDAL;eTHAL;eREH;eZAIN;
    eSEEN;fHEEN;fAD;eDAD;eTAH;eZAH;eAIN;eGHAIN;eKEHEH WITH TWO DOTS ABOVE;qHREE DOTS BELOW;
    eFARSI YEH WITH INVERTED V;tTWO DOTS ABOVE;uHREE DOTS ABOVE;7TATWEEL;7LETTER FEH;eQAF;eKAF;
    eLAM;eMEEM;eNOON;eHEH;eWAW;eALEF MAKSURA;eYEH;7FATHATAN;7DAMMATAN;7KASRATAN;7FATHA;7DAMMA;
    7KASRA;7SHADDA;8UKUN;7MADDAH ABOVE;7HAMZA ABOVE;dBELOW;7SUBSCRIPT ALEF;7INVERTED DAMMA;
    7MARK NOON GHUNNA;7ZWARAKAY;7VOWEL SIGN SMALL V ABOVE;iINVERTED SMALL V ABOVE;iDOT BELOW;
    7REVERSED DAMMA;7FATHA WITH TWO DOTS;7WAVY HAMZA BELOW;6-INDIC DIGIT ZERO;jONE;jTWO;kHREE;
    jFOUR;kIVE;jSIX;kEVEN;jEIGHT;jNINE;6 PERCENT SIGN;7DECIMAL SEPARATOR;7THOUSANDS SEPARATOR;
    7FIVE POINTED STAR;7LETTER DOTLESS BEH;mQAF;eSUPERSCRIPT ALEF;eALEF WASLA;
    kITH WAVY HAMZA ABOVE;zBELOW;eHIGH HAMZA;o ALEF;pWAW;eU WITH HAMZA ABOVE;eHIGH HAMZA YEH;
    eTTEH;iEH;eBEEH;eTEH WITH RING;nTHREE DOTS ABOVE DOWNWARDS;ePEH;eTEHEH;eBEHEH;
    eHAH WITH HAMZA ABOVE;nTWO DOTS VERTICAL ABOVE;eNYEH;eDYEH;eHAH WITH THREE DOTS ABOVE;
    eTCHEH;jEH;eDDAL;fAL WITH RING;nDOT BELOW;w AND SMALL TAH;gHAL;fDAHAL;fUL;
    fAL WITH THREE DOTS ABOVE DOWNWARDS;nFOUR DOTS ABOVE;eRREH;fEH WITH SMALL V;nRING;
    nDOT BELOW;nSMALL V BELOW;nDOT BELOW AND DOT ABOVE;nTWO DOTS ABOVE;eJEH;
    eREH WITH FOUR DOTS ABOVE;eSEEN WITH DOT BELOW AND DOT ABOVE;oTHREE DOTS BELOW;
    E AND THREE DOTS ABOVE;fAD WITH TWO DOTS BELOW;oHREE DOTS ABOVE;eTAH WITH THREE DOTS ABOVE;
    eAIN WITH THREE DOTS ABOVE;eDOTLESS FEH;eFEH WITH DOT MOVED BELOW;rBELOW;eVEH;
    eFEH WITH THREE DOTS BELOW;ePEHEH;eQAF WITH DOT ABOVE;nTHREE DOTS ABOVE;eKEHEH;eSWASH KAF;
    eKAF WITH RING;nDOT ABOVE;eNG;eKAF WITH THREE DOTS BELOW;eGAF;h WITH RING;eNGOEH;
    eGAF WITH TWO DOTS BELOW;fUEH;fAF WITH THREE DOTS ABOVE;eLAM WITH SMALL V;nDOT ABOVE;
    nTHREE DOTS ABOVE;yBELOW;eNOON WITH DOT BELOW;jGHUNNA;eRNOON;eNOON WITH RING;
    oTHREE DOTS ABOVE;eHEH DOACHASHMEE;eTCHEH WITH DOT ABOVE;eHEH WITH YEH ABOVE;iGOAL;
    m WITH HAMZA ABOVE;eTEH MARBUTA GOAL;eWAW WITH RING;eKIRGHIZ OE;eOE;eU;eYU;eKIRGHIZ YU;
    eWAW WITH TWO DOTS ABOVE;eVE;eFARSI YEH;eYEH WITH TAIL;nSMALL V;eWAW WITH DOT ABOVE;eE;
    eYEH WITH THREE DOTS BELOW;iBARREE;o WITH HAMZA ABOVE;7FULL STOP;7LETTER AE;
    7SMALL HIGH LIGATURE SAD WITH LAM WITH ALEF MAKSURA;rQAF WITH LAM WITH ALEF MAKSURA;
    iMEEM INITIAL FORM;iLAM ALEF;iJEEM;iTHREE DOTS;iSEEN;7END OF AYAH;7START OF RUB EL HIZB;
    8MALL HIGH ROUNDED ZERO;iUPRIGHT RECTANGULAR ZERO;iDOTLESS HEAD OF KHAH;iMEEM ISOLATED FORM;
    dLOW SEEN;dHIGH MADDA;dWAW;dYEH;dHIGH YEH;iNOON;7PLACE OF SAJDAH;7EMPTY CENTRE LOW STOP;
    kHIGH STOP;7ROUNDED HIGH STOP WITH FILLED CENTRE;7SMALL LOW MEEM;
    7LETTER DAL WITH INVERTED V;eREH WITH INVERTED V;0EXTENDED ARABIC-INDIC DIGIT ZERO;sONE;
    sTWO;tHREE;sFOUR;tIVE;sSIX;tEVEN;sEIGHT;sNINE;0ARABIC LETTER SHEEN WITH DOT BELOW;
    eDAD WITH DOT BELOW;eGHAIN WITH DOT BELOW;7SIGN SINDHI AMPERSAND;jPOSTPOSITION MEN;
    7LETTER HEH WITH INVERTED V;0SYRIAC END OF PARAGRAPH;7SUPRALINEAR FULL STOP;
    9BLINEAR FULL STOP;9PRALINEAR COLON;9BLINEAR COLON;7HORIZONTAL COLON;7COLON SKEWED LEFT;
    kRIGHT;7SUPRALINEAR COLON SKEWED LEFT;9BLINEAR COLON SKEWED RIGHT;7CONTRACTION;
    7HARKLEAN OBELUS;gMETOBELUS;gASTERISCUS;70F=7ABBREVIATION MARK;7LETTER ALAPH;
    eSUPERSCRIPT ALAPH;eBETH;eGAMAL;j GARSHUNI;eDALATH;fOTLESS DALATH RISH;eHE;eWAW;eZAIN;eHETH;
    eTETH;i GARSHUNI;eYUDH;i HE;eKAPH;eLAMADH;eMIM;eNUN;eSEMKATH;eFINAL SEMKATH;eE;ePE;
    eREVERSED PE;eSADHE;eQAPH;eRISH;eSHIN;eTAW;ePERSIAN BHETH;mGHAMAL;mDHALATH;7PTHAHA ABOVE;
    eBELOW;eDOTTED;7ZQAPHA ABOVE;eBELOW;eDOTTED;7RBASA ABOVE;dBELOW;7DOTTED ZLAMA HORIZONTAL;
    kANGULAR;7HBASA ABOVE;dBELOW;c-ESASA DOTTED;7ESASA ABOVE;dBELOW;7RWAHA;7FEMININE DOT;
    7QUSHSHAYA;7RUKKAKHA;7TWO VERTICAL DOTS ABOVE;pBELOW;8HREE DOTS ABOVE;iBELOW;
    7OBLIQUE LINE ABOVE;kBELOW;7MUSIC;7BARREKH;74D=7LETTER SOGDIAN ZHAIN;mKHAPH;mFE;
    0ARABIC LETTER BEH WITH THREE DOTS HORIZONTALLY BELOW;nDOT BELOW AND THREE DOTS ABOVE;
    nTHREE DOTS POINTING UPWARDS BELOW;U AND TWO DOTS ABOVE;oWO DOTS BELOW AND DOT ABOVE;
    nINVERTED SMALL V BELOW;nSMALL V;eHAH WITH TWO DOTS ABOVE;oHREE DOTS POINTING UPWARDS BELOW;
    eDAL WITH TWO DOTS VERTICALLY BELOW AND SMALL TAH;nINVERTED SMALL V BELOW;eREH WITH STROKE;
    eSEEN WITH FOUR DOTS ABOVE;eAIN WITH TWO DOTS ABOVE;oHREE DOTS POINTING DOWNWARDS ABOVE;
    oWO DOTS VERTICALLY ABOVE;eFEH WITH TWO DOTS BELOW;oHREE DOTS POINTING UPWARDS BELOW;
    eKEHEH WITH DOT ABOVE;pTHREE DOTS ABOVE;APOINTING UPWARDS BELOW;eMEEM WITH DOT ABOVE;sBELOW;
    eNOON WITH TWO DOTS BELOW;oSMALL TAH;uV;eLAM WITH BAR;eREH WITH TWO DOTS VERTICALLY ABOVE;
    nHAMZA ABOVE;eSEEN WITH TWO DOTS VERTICALLY ABOVE;eHAH WITH SMALL ARABIC LETTER TAH BELOW;
    LAND TWO DOTS;eSEEN WITH SMALL ARABIC LETTER TAH AND TWO DOTS;
    eREH WITH SMALL ARABIC LETTER TAH AND TWO DOTS;eHAH WITH SMALL ARABIC LETTER TAH ABOVE;
    eALEF WITH EXTENDED ARABIC-INDIC DIGIT TWO ABOVE;RHREE ABOVE;
    eFARSI YEH WITH EXTENDED ARABIC-INDIC DIGIT TWO ABOVE;WHREE ABOVE;VFOUR BELOW;
    eWAW WITH EXTENDED ARABIC-INDIC DIGIT TWO ABOVE;QHREE ABOVE;
    eYEH BARREE WITH EXTENDED ARABIC-INDIC DIGIT TWO ABOVE;XHREE ABOVE;
    eHAH WITH EXTENDED ARABIC-INDIC DIGIT FOUR BELOW;
    eSEEN WITH EXTENDED ARABIC-INDIC DIGIT FOUR ABOVE;oINVERTED V;eKAF WITH TWO DOTS ABOVE;
    0THAANA LETTER HAA;eSHAVIYANI;eNOONU;eRAA;eBAA;eLHAVIYANI;eKAAFU;eALIFU;eVAAVU;eMEEMU;
    eFAAFU;eDHAALU;eTHAA;eLAAMU;eGAAFU;fNAVIYANI;eSEENU;eDAVIYANI;eZAVIYANI;eTAVIYANI;eYAA;
    ePAVIYANI;eJAVIYANI;eCHAVIYANI;eTTAA;eHHAA;eKHAA;eTHAALU;eZAA;eSHEENU;fAADHU;eDAADHU;eTO;
    eZO;eAINU;eGHAINU;eQAAFU;eWAAVU;7ABAFILI;8ABAAFILI;7IBIFILI;7EEBEEFILI;7UBUFILI;7OOBOOFILI;
    7EBEFILI;8YBEYFILI;7OBOFILI;8ABOAFILI;7SUKUN;7LETTER NAA;7C0=0NKO DIGIT ZERO;aONE;aTWO;
    bHREE;aFOUR;bIVE;aSIX;bEVEN;aEIGHT;aNINE;4LETTER A;bEE;bI;bE;bU;bOO;c;bDAGBASINNA;bN;bBA;
    bPA;bTA;bJA;bCHA;bDA;bRA;cRA;bSA;bGBA;bFA;bKA;bLA;bNA WOLOSO;bMA;bNYA;cA;bHA;bWA;bYA;
    bNYA WOLOSO;bJONA JA;gCHA;gRA;4COMBINING SHORT HIGH TONE;kLOW TONE;kRISING TONE;
    eLONG DESCENDING TONE;jHIGH TONE;jLOW TONE;jRISING TONE;eNASALIZATION MARK;
    eDOUBLE DOT ABOVE;4HIGH TONE APOSTROPHE;4LOW TONE APOSTROPHE;4SYMBOL OO DENNEN;bGBAKURUNEN;
    4COMMA;4EXCLAMATION MARK;4LAJANYALAN;7FD=4DANTAYALAN;5OROME SIGN;4TAMAN SIGN;
    0SAMARITAN LETTER ALAF;hBIT;hGAMAN;hDALAT;hIY;hBAA;hZEN;hIT;hTIT;hYUT;hKAAF;hLABAT;hMIM;
    hNUN;hSINGAAT;hIN;hFI;hTSAADIY;hQUF;hRISH;hSHAN;hTAAF;aMARK IN;h-ALAF;fOCCLUSION;fDAGESH;
    bODIFIER LETTER EPENTHETIC YUT;bARK EPENTHETIC YUT;aVOWEL SIGN LONG E;lE;lOVERLONG AA;
    lLONG AA;lAA;lOVERLONG A;lLONG A;lA;aMODIFIER LETTER SHORT A;aVOWEL SIGN SHORT A;lLONG U;lU;
    aMODIFIER LETTER I;aVOWEL SIGN LONG I;lI;lO;lSUKUN;aMARK NEQUDAA;830=aPUNCTUATION NEQUDAA;
    mAFSAAQ;nNGED;mBAU;mATMAAU;mSHIYYAALAA;aABBREVIATION MARK;aPUNCTUATION MELODIC QITSA;mZIQAA;
    mQITSA;mZAEF;mTURU;mARKAANU;mSOF MASHFAAT;mANNAAU;840=0MANDAIC LETTER HALQA;fAB;gG;gD;gH;
    fUSHENNA;fAZ;fIT;fATT;gKSA;h;gL;gM;gN;gS;fIN;fAP;gSZ;gQ;gR;gSH;gT;fDUSHENNA;fKAD;fAIN;
    8AFFRICATION MARK;8VOCALIZATION MARK;8GEMINATION MARK;85E=8PUNCTUATION;
    860=0SYRIAC LETTER MALAYALAM NGA;oJA;oNYA;oTTA;oNNA;qNA;oBHA;oRA;oLLA;qLA;oSSA;
    870=0ARABIC LETTER ALEF WITH ATTACHED FATHA;xTOP RIGHT FATHA;oRIGHT MIDDLE STROKE;
    oLEFT MIDDLE STROKE;oATTACHED KASRA;xBOTTOM RIGHT KASRA;xROUND DOT ABOVE;yIGHT ROUND DOT;
    xLEFT ROUND DOT;xROUND DOT BELOW;oDOT ABOVE;oATTACHED TOP RIGHT FATHA AND DOT ABOVE;
    oRIGHT MIDDLE STROKE AND DOT ABOVE;oATTACHED BOTTOM RIGHT KASRA AND DOT ABOVE;
    xTOP RIGHT FATHA AND LEFT RING;oRIGHT MIDDLE STROKE AND LEFT RING;
    oATTACHED BOTTOM RIGHT KASRA AND LEFT RING;xRIGHT HAMZA;xLEFT HAMZA;
    7TATWEEL WITH OVERSTRUCK HAMZA;vWAW;kTWO DOTS BELOW;7LETTER THIN YEH;7BASELINE ROUND DOT;
    7RAISED ROUND DOT;7LETTER NOON WITH INVERTED SMALL V;eHAH WITH INVERTED SMALL V BELOW;
    eTAH WITH DOT BELOW;nTHREE DOTS BELOW;eKEHEH WITH TWO DOTS VERTICALLY BELOW;7VERTICAL TAIL;
    890=7POUND MARK ABOVE;8IASTRE MARK ABOVE;898=7SMALL HIGH WORD AL-JUZ;dLOW WORD ISHMAAM;
    nMAALA;mTASHEEL;7MADDA WAAJIB;7SUPERSCRIPT ALEF MOKHASSAS;7DOUBLED MADDA;
    7HALF MADDA OVER MADDA;7LETTER BEH WITH SMALL V BELOW;nHAMZA ABOVE;
    eJEEM WITH TWO DOTS ABOVE;eTAH WITH TWO DOTS ABOVE;eFEH WITH DOT BELOW AND THREE DOTS ABOVE;
    eQAF WITH DOT BELOW;eLAM WITH DOUBLE BAR;eMEEM WITH THREE DOTS ABOVE;
    eYEH WITH TWO DOTS BELOW AND HAMZA ABOVE;GDOT ABOVE;eREH WITH LOOP;eWAW WITH DOT WITHIN;
    eROHINGYA YEH;eLOW ALEF;eDAL WITH THREE DOTS BELOW;eSAD WITH THREE DOTS BELOW;
    eGAF WITH INVERTED STROKE;eSTRAIGHT WAW;eZAIN WITH INVERTED V ABOVE;
    eAIN WITH THREE DOTS BELOW;eKAF WITH DOT BELOW;eQAF WITH DOT BELOW AND NO DOTS ABOVE;
    eBEH WITH SMALL MEEM ABOVE;ePEH WITH SMALL MEEM ABOVE;eTEH WITH SMALL TEH ABOVE;
    eREH WITH SMALL NOON ABOVE;eYEH WITH TWO DOTS BELOW AND SMALL NOON ABOVE;eAFRICAN FEH;mQAF;
    mNOON;ePEH WITH SMALL V;eTEH WITH SMALL V;fTEH WITH SMALL V;fCHEH WITH SMALL V;
    eKEHEH WITH SMALL V;eGHAIN WITH THREE DOTS ABOVE;eAFRICAN QAF WITH THREE DOTS ABOVE;
    eJEEM WITH THREE DOTS ABOVE;zBELOW;eLAM WITH SMALL ARABIC LETTER TAH ABOVE;eGRAF;
    7SMALL FARSI YEH;dHIGH FARSI YEH;iYEH BARREE WITH TWO DOTS BELOW;iWORD SAH;iZAH;
    7LARGE ROUND DOT ABOVE;nBELOW;7SUKUN BELOW;7LARGE CIRCLE BELOW;
    dROUND DOT INSIDE CIRCLE BELOW;7SMALL LOW WAW;dHIGH WORD AR-RUB;iSAD;iAIN;iQAF;
    iNOON WITH KASRA;dLOW NOON WITH KASRA;dHIGH WORD ATH-THALATHA;oS-SAJDA;oN-NISF;nSAKTA;nQIF;
    nWAQFA;iFOOTNOTE MARKER;iSIGN SAFHA;7DISPUTED END OF AYAH;7TURNED DAMMA BELOW;7CURLY FATHA;
    dDAMMA;dKASRA;dFATHATAN;dDAMMATAN;dKASRATAN;7TONE ONE DOT ABOVE;cTWO DOTS ABOVE;cLOOP ABOVE;
    cONE DOT BELOW;cTWO DOTS BELOW;cLOOP BELOW;7OPEN FATHATAN;cDAMMATAN;cKASRATAN;
    7SMALL HIGH WAW;7FATHA WITH RING;iDOT ABOVE;7KASRA WITH DOT BELOW;7LEFT ARROWHEAD ABOVE;
    7RIGHT ARROWHEAD ABOVE;7LEFT ARROWHEAD BELOW;7RIGHT ARROWHEAD BELOW;
    7DOUBLE RIGHT ARROWHEAD ABOVE;z WITH DOT;7RIGHT ARROWHEAD ABOVE WITH DOT;7DAMMA WITH DOT;
    7MARK SIDEWAYS NOON GHUNNA;0DEVANAGARI SIGN INVERTED CANDRABINDU;gCANDRABINDU;gANUSVARA;
    gVISARGA;bLETTER SHORT A;iA;jA;iI;jI;iU;jU;iVOCALIC R;qL;iCANDRA E;iSHORT E;iE;iAI;
    iCANDRA O;iSHORT O;iO;iAU;iKA;jHA;iGA;jHA;iNGA;iCA;jHA;iJA;jHA;iNYA;iTTA;kHA;iDDA;kHA;iNNA;
    iTA;jHA;iDA;jHA;iNA;jNNA;iPA;jHA;iBA;jHA;iMA;iYA;iRA;jRA;iLA;jLA;kLA;iVA;iSHA;jSA;jA;iHA;
    bVOWEL SIGN OE;nOE;bSIGN NUKTA;gAVAGRAHA;bVOWEL SIGN AA;mI;nI;mU;nU;mVOCALIC R;vR;mCANDRA E;
    mSHORT E;mE;mAI;mCANDRA O;mSHORT O;mO;mAU;bSIGN VIRAMA;bVOWEL SIGN PRISHTHAMATRA E;mAW;bOM;
    bSTRESS SIGN UDATTA;nANUDATTA;bGRAVE ACCENT;bACUTE ACCENT;bVOWEL SIGN CANDRA LONG E;mUE;nUE;
    bLETTER QA;iKHHA;iGHHA;iZA;iDDDHA;iRHA;iFA;iYYA;iVOCALIC RR;qLL;bVOWEL SIGN VOCALIC L;vL;
    bDANDA;cOUBLE DANDA;cIGIT ZERO;hONE;hTWO;iHREE;hFOUR;iIVE;hSIX;iEVEN;hEIGHT;hNINE;
    bABBREVIATION SIGN;bSIGN HIGH SPACING DOT;bLETTER CANDRA A;iOE;jOE;iAW;iUE;jUE;iMARWARI DDA;
    iZHA;iHEAVY YA;iGGA;iJJA;iGLOTTAL STOP;iDDDA;iBBA;0BENGALI ANJI;8SIGN CANDRABINDU;dANUSVARA;
    dVISARGA;985=8LETTER A;gA;fI;gI;fU;gU;fVOCALIC R;nL;98F=fE;fAI;993=fO;fAU;fKA;gHA;fGA;gHA;
    fNGA;fCA;gHA;fJA;gHA;fNYA;fTTA;hHA;fDDA;hHA;fNNA;fTA;gHA;fDA;gHA;fNA;9AA=fPA;gHA;fBA;gHA;
    fMA;fYA;fRA;9B2=fLA;9B6=fSHA;gSA;gA;fHA;9BC=8SIGN NUKTA;dAVAGRAHA;8VOWEL SIGN AA;jI;kI;jU;
    kU;jVOCALIC R;sR;9C7=jE;jAI;9CB=jO;jAU;8SIGN VIRAMA;8LETTER KHANDA TA;9D7=8AU LENGTH MARK;
    9DC=8LETTER RRA;gHA;9DF=fYYA;fVOCALIC RR;nLL;8VOWEL SIGN VOCALIC L;sL;9E6=8DIGIT ZERO;eONE;
    eTWO;fHREE;eFOUR;fIVE;eSIX;fEVEN;eEIGHT;eNINE;8LETTER RA WITH MIDDLE DIAGONAL;
    nLOWER DIAGONAL;8RUPEE MARK;eSIGN;8CURRENCY NUMERATOR ONE;rTWO;sHREE;rFOUR;
    rONE LESS THAN THE DENOMINATOR;hDENOMINATOR SIXTEEN;8ISSHAR;8GANDA MARK;
    8LETTER VEDIC ANUSVARA;8ABBREVIATION SIGN;8SANDHI MARK;A01=0GURMUKHI SIGN ADAK BINDI;eBINDI;
    eVISARGA;A05=9LETTER A;hA;gI;hI;gU;hU;A0F=gEE;gAI;A13=gOO;gAU;gKA;hHA;gGA;hHA;gNGA;gCA;hHA;
    gJA;hHA;gNYA;gTTA;iHA;gDDA;iHA;gNNA;gTA;hHA;gDA;hHA;gNA;A2A=gPA;hHA;gBA;hHA;gMA;gYA;gRA;
    A32=gLA;hLA;A35=gVA;gSHA;A38=hA;gHA;A3C=9SIGN NUKTA;A3E=9VOWEL SIGN AA;kI;lI;kU;lU;A47=kEE;
    kAI;A4B=kOO;kAU;9SIGN VIRAMA;A51=eUDAAT;A59=9LETTER KHHA;gGHHA;gZA;gRRA;A5E=gFA;
    A66=9DIGIT ZERO;fONE;fTWO;gHREE;fFOUR;gIVE;fSIX;gEVEN;fEIGHT;fNINE;9TIPPI;9ADDAK;9IRI;9URA;
    9EK ONKAR;9SIGN YAKASH;9ABBREVIATION SIGN;A81=2JARATI SIGN CANDRABINDU;eANUSVARA;eVISARGA;
    A85=9LETTER A;hA;gI;hI;gU;hU;gVOCALIC R;oL;9VOWEL CANDRA E;A8F=9LETTER E;gAI;
    9VOWEL CANDRA O;A93=9LETTER O;gAU;gKA;hHA;gGA;hHA;gNGA;gCA;hHA;gJA;hHA;gNYA;gTTA;iHA;gDDA;
    iHA;gNNA;gTA;hHA;gDA;hHA;gNA;AAA=gPA;hHA;gBA;hHA;gMA;gYA;gRA;AB2=gLA;hLA;AB5=gVA;gSHA;hSA;
    hA;gHA;ABC=9SIGN NUKTA;eAVAGRAHA;9VOWEL SIGN AA;kI;lI;kU;lU;kVOCALIC R;tR;kCANDRA E;AC7=kE;
    kAI;kCANDRA O;ACB=kO;kAU;9SIGN VIRAMA;AD0=9OM;AE0=9LETTER VOCALIC RR;oLL;
    9VOWEL SIGN VOCALIC L;tL;AE6=9DIGIT ZERO;fONE;fTWO;gHREE;fFOUR;gIVE;fSIX;gEVEN;fEIGHT;fNINE;
    9ABBREVIATION SIGN;9RUPEE SIGN;AF9=9LETTER ZHA;9SIGN SUKUN;fHADDA;eMADDAH;
    eTHREE-DOT NUKTA ABOVE;eCIRCLE NUKTA ABOVE;eTWO-CIRCLE NUKTA ABOVE;
    B01=0ORIYA SIGN CANDRABINDU;bANUSVARA;bVISARGA;B05=6LETTER A;eA;dI;eI;dU;eU;dVOCALIC R;lL;
    B0F=dE;dAI;B13=dO;dAU;dKA;eHA;dGA;eHA;dNGA;dCA;eHA;dJA;eHA;dNYA;dTTA;fHA;dDDA;fHA;dNNA;dTA;
    eHA;dDA;eHA;dNA;B2A=dPA;eHA;dBA;eHA;dMA;dYA;dRA;B32=dLA;eLA;B35=dVA;dSHA;eSA;eA;dHA;
    B3C=6SIGN NUKTA;bAVAGRAHA;6VOWEL SIGN AA;hI;iI;hU;iU;hVOCALIC R;qR;B47=hE;hAI;B4B=hO;hAU;
    6SIGN VIRAMA;B55=bOVERLINE;6AI LENGTH MARK;7U LENGTH MARK;B5C=6LETTER RRA;eHA;B5F=dYYA;
    dVOCALIC RR;lLL;6VOWEL SIGN VOCALIC L;qL;B66=6DIGIT ZERO;cONE;cTWO;dHREE;cFOUR;dIVE;cSIX;
    dEVEN;cEIGHT;cNINE;6ISSHAR;6LETTER WA;6FRACTION ONE QUARTER;jHALF;fTHREE QUARTERS;
    fONE SIXTEENTH;jEIGHTH;fTHREE SIXTEENTHS;B82=0TAMIL SIGN ANUSVARA;bVISARGA;B85=6LETTER A;eA;
    dI;eI;dU;eU;B8E=dE;eE;dAI;B92=dO;eO;dAU;dKA;B99=dNGA;dCA;B9C=dJA;B9E=dNYA;dTTA;BA3=dNNA;dTA;
    BA8=dNA;eNNA;dPA;BAE=dMA;dYA;dRA;eRA;dLA;eLA;fLA;dVA;dSHA;eSA;eA;dHA;BBE=6VOWEL SIGN AA;hI;
    iI;hU;iU;BC6=hE;iE;hAI;BCA=hO;iO;hAU;6SIGN VIRAMA;BD0=6OM;BD7=6AU LENGTH MARK;
    BE6=6DIGIT ZERO;cONE;cTWO;dHREE;cFOUR;dIVE;cSIX;dEVEN;cEIGHT;cNINE;6NUMBER TEN;dONE HUNDRED;
    hTHOUSAND;6DAY SIGN;6MONTH SIGN;6YEAR SIGN;6DEBIT SIGN;6CREDIT SIGN;6AS ABOVE SIGN;
    6RUPEE SIGN;6NUMBER SIGN;C00=1ELUGU SIGN COMBINING CANDRABINDU ABOVE;dANDRABINDU;cANUSVARA;
    cVISARGA;cCOMBINING ANUSVARA ABOVE;7LETTER A;fA;eI;fI;eU;fU;eVOCALIC R;mL;C0E=eE;fE;eAI;
    C12=eO;fO;eAU;eKA;fHA;eGA;fHA;eNGA;eCA;fHA;eJA;fHA;eNYA;eTTA;gHA;eDDA;gHA;eNNA;eTA;fHA;eDA;
    fHA;eNA;C2A=ePA;fHA;eBA;fHA;eMA;eYA;eRA;fRA;eLA;fLA;gLA;eVA;eSHA;fSA;fA;eHA;C3C=7SIGN NUKTA;
    cAVAGRAHA;7VOWEL SIGN AA;iI;jI;iU;jU;iVOCALIC R;rR;C46=iE;jE;iAI;C4A=iO;jO;iAU;7SIGN VIRAMA;
    C55=7LENGTH MARK;7AI LENGTH MARK;C58=7LETTER TSA;eDZA;eRRRA;C5D=eNAKAARA POLLU;
    C60=eVOCALIC RR;mLL;7VOWEL SIGN VOCALIC L;rL;C66=7DIGIT ZERO;dONE;dTWO;eHREE;dFOUR;eIVE;
    dSIX;eEVEN;dEIGHT;dNINE;C77=7SIGN SIDDHAM;7FRACTION DIGIT ZERO FOR ODD POWERS OF FOUR;
    mONE FOR ODD POWERS OF FOUR;mTWO FOR ODD POWERS OF FOUR;nHREE FOR ODD POWERS OF FOUR;
    mONE FOR EVEN POWERS OF FOUR;mTWO FOR EVEN POWERS OF FOUR;nHREE FOR EVEN POWERS OF FOUR;
    7SIGN TUUMU;0KANNADA SIGN SPACING CANDRABINDU;dCANDRABINDU;dANUSVARA;dVISARGA;dSIDDHAM;
    8LETTER A;gA;fI;gI;fU;gU;fVOCALIC R;nL;C8E=fE;gE;fAI;C92=fO;gO;fAU;fKA;gHA;fGA;gHA;fNGA;fCA;
    gHA;fJA;gHA;fNYA;fTTA;hHA;fDDA;hHA;fNNA;fTA;gHA;fDA;gHA;fNA;CAA=fPA;gHA;fBA;gHA;fMA;fYA;fRA;
    gRA;fLA;gLA;CB5=fVA;fSHA;gSA;gA;fHA;CBC=8SIGN NUKTA;dAVAGRAHA;8VOWEL SIGN AA;jI;kI;jU;kU;
    jVOCALIC R;sR;CC6=jE;kE;jAI;CCA=jO;kO;jAU;8SIGN VIRAMA;CD5=8LENGTH MARK;8AI LENGTH MARK;
    CDD=8LETTER NAKAARA POLLU;fFA;CE0=fVOCALIC RR;nLL;8VOWEL SIGN VOCALIC L;sL;CE6=8DIGIT ZERO;
    eONE;eTWO;fHREE;eFOUR;fIVE;eSIX;fEVEN;eEIGHT;eNINE;CF1=8SIGN JIHVAMULIYA;dUPADHMANIYA;
    D00=0MALAYALAM SIGN COMBINING ANUSVARA ABOVE;gANDRABINDU;fANUSVARA;fVISARGA;
    aLETTER VEDIC ANUSVARA;hA;iA;hI;iI;hU;iU;hVOCALIC R;pL;D0E=hE;iE;hAI;D12=hO;iO;hAU;hKA;iHA;
    hGA;iHA;hNGA;hCA;iHA;hJA;iHA;hNYA;hTTA;jHA;hDDA;jHA;hNNA;hTA;iHA;hDA;iHA;hNA;iNNA;hPA;iHA;
    hBA;iHA;hMA;hYA;hRA;iRA;hLA;iLA;jLA;hVA;hSHA;iSA;iA;hHA;hTTTA;aSIGN VERTICAL BAR VIRAMA;
    fCIRCULAR VIRAMA;fAVAGRAHA;aVOWEL SIGN AA;lI;mI;lU;mU;lVOCALIC R;uR;D46=lE;mE;lAI;D4A=lO;mO;
    lAU;aSIGN VIRAMA;aLETTER DOT REPH;aSIGN PARA;D54=aLETTER CHILLU M;oY;oLLL;aAU LENGTH MARK;
    aFRACTION ONE ONE-HUNDRED-AND-SIXTIETH;nFORTIETH;jTHREE EIGHTIETHS;jONE TWENTIETH;oENTH;
    jTHREE TWENTIETHS;jONE FIFTH;aLETTER ARCHAIC II;hVOCALIC RR;pLL;aVOWEL SIGN VOCALIC L;uL;
    D66=aDIGIT ZERO;gONE;gTWO;hHREE;gFOUR;hIVE;gSIX;hEVEN;gEIGHT;gNINE;aNUMBER TEN;hONE HUNDRED;
    lTHOUSAND;aFRACTION ONE QUARTER;nHALF;jTHREE QUARTERS;jONE SIXTEENTH;nEIGHTH;
    jTHREE SIXTEENTHS;aDATE MARK;aLETTER CHILLU NN;p;oRR;oL;pL;oK;D81=0SINHALA SIGN CANDRABINDU;
    dANUSVARAYA;dVISARGAYA;D85=8LETTER AYANNA;gAYANNA;gEYANNA;hEYANNA;fIYANNA;gIYANNA;fUYANNA;
    gUYANNA;fIRUYANNA;iUYANNA;gLUYANNA;iUYANNA;fEYANNA;gEYANNA;fAIYANNA;fOYANNA;gOYANNA;
    fAUYANNA;D9A=gLPAPRAANA KAYANNA;fMAHAAPRAANA KAYANNA;fALPAPRAANA GAYANNA;
    fMAHAAPRAANA GAYANNA;fKANTAJA NAASIKYAYA;fSANYAKA GAYANNA;fALPAPRAANA CAYANNA;
    fMAHAAPRAANA CAYANNA;fALPAPRAANA JAYANNA;fMAHAAPRAANA JAYANNA;fTAALUJA NAASIKYAYA;
    nSANYOOGA NAAKSIKYAYA;fSANYAKA JAYANNA;fALPAPRAANA TTAYANNA;fMAHAAPRAANA TTAYANNA;
    fALPAPRAANA DDAYANNA;fMAHAAPRAANA DDAYANNA;gUURDHAJA NAYANNA;fSANYAKA DDAYANNA;
    fALPAPRAANA TAYANNA;fMAHAAPRAANA TAYANNA;fALPAPRAANA DAYANNA;fMAHAAPRAANA DAYANNA;
    fDANTAJA NAYANNA;DB3=fSANYAKA DAYANNA;fALPAPRAANA PAYANNA;fMAHAAPRAANA PAYANNA;
    fALPAPRAANA BAYANNA;fMAHAAPRAANA BAYANNA;hYANNA;fAMBA BAYANNA;fYAYANNA;fRAYANNA;
    DBD=fDANTAJA LAYANNA;DC0=fVAYANNA;fTAALUJA SAYANNA;fMUURDHAJA SAYANNA;fDANTAJA SAYANNA;
    fHAYANNA;fMUURDHAJA LAYANNA;fFAYANNA;DCA=8SIGN AL-LAKUNA;DCF=8VOWEL SIGN AELA-PILLA;
    jKETTI AEDA-PILLA;jDIGA AEDA-PILLA;jKETTI IS-PILLA;jDIGA IS-PILLA;jKETTI PAA-PILLA;
    DD6=jDIGA PAA-PILLA;DD8=jGAETTA-PILLA;jKOMBUVA;jDIGA KOMBUVA;jKOMBU DEKA;oVA HAA AELA-PILLA;
    vDIGA AELA-PILLA;vGAYANUKITTA;jGAYANUKITTA;DE6=8LITH DIGIT ZERO;jONE;jTWO;kHREE;jFOUR;kIVE;
    jSIX;kEVEN;jEIGHT;jNINE;DF2=8VOWEL SIGN DIGA GAETTA-PILLA;qYANUKITTA;
    8PUNCTUATION KUNDDALIYA;E01=0THAI CHARACTER KO KAI;gHO KHAI;lUAT;lWAI;lON;jRAKHANG;fNGO NGU;
    fCHO CHAN;lING;lANG;fSO SO;fCHO CHOE;fYO YING;fDO CHADA;fTO PATAK;gHO THAN;jNANGMONTHO;
    jPHUTHAO;fNO NEN;fDO DEK;fTO TAO;gHO THUNG;lAHAN;lONG;fNO NU;fBO BAIMAI;fPO PLA;gHO PHUNG;
    fFO FA;fPHO PHAN;fFO FAN;fPHO SAMPHAO;fMO MA;fYO YAK;fRO RUA;gU;fLO LING;gU;fWO WAEN;
    fSO SALA;iRUSI;iSUA;fHO HIP;fLO CHULA;fO ANG;fHO NOKHUK;fPAIYANNOI;fSARA A;fMAI HAN-AKAT;
    fSARA AA;lM;kI;lI;kUE;mE;l;lU;fPHINTHU;E3F=6URRENCY SYMBOL BAHT;6HARACTER SARA E;kAE;kO;
    kAI MAIMUAN;rALAI;fLAKKHANGYAO;fMAIYAMOK;iTAIKHU;i EK;jTHO;kRI;jCHATTAWA;fTHANTHAKHAT;
    fNIKHAHIT;fYAMAKKAN;fFONGMAN;5DIGIT ZERO;bONE;bTWO;cHREE;bFOUR;cIVE;bSIX;cEVEN;bEIGHT;bNINE;
    5CHARACTER ANGKHANKHU;fKHOMUT;E81=0LAO LETTER KO;cHO SUNG;E84=fTAM;E86=bPALI GHA;bNGO;bCO;
    bPALI CHA;bSO TAM;E8C=bPALI JHA;bNYO;bPALI NYA;gTTA;iHA;gDDA;iHA;gNNA;bDO;bTO;cHO SUNG;fTAM;
    bPALI DHA;bNO;bBO;bPO;cHO SUNG;bFO TAM;bPHO TAM;bFO SUNG;bPALI BHA;bMO;bYO;bLO LING;
    EA5=fOOT;EA7=bWO;bSANSKRIT SHA;lSA;cO SUNG;bHO SUNG;bPALI LLA;bO;bHO TAM;4ELLIPSIS;
    4VOWEL SIGN A;fMAI KAN;fAA;gM;fI;gI;fY;gY;fU;gU;4SIGN PALI VIRAMA;4VOWEL SIGN MAI KON;
    4SEMIVOWEL SIGN LO;jNYO;EC0=4VOWEL SIGN E;gI;fO;fAY;gI;EC6=4KO LA;EC8=4TONE MAI EK;dTHO;eI;
    dCATAWA;4CANCELLATION MARK;4NIGGAHITA;ED0=4DIGIT ZERO;aONE;aTWO;bHREE;aFOUR;bIVE;aSIX;bEVEN;
    aEIGHT;aNINE;EDC=4HO NO;7MO;4LETTER KHMU GO;gNYO;F00=0TIBETAN SYLLABLE OM;
    8MARK GTER YIG MGO TRUNCATED A;q-UM RNAM BCAD MA;uGTER TSHEG MA;dINITIAL YIG MGO MDUN MA;
    dCLOSING YIG MGO SGAB MA;eARET YIG MGO PHUR SHAD MA;dYIG MGO TSHEG SHAD MA;dSBRUL SHAD;
    dBSKUR YIG MGO;eKA- SHOG YIG MGO;dINTERSYLLABIC TSHEG;dDELIMITER TSHEG BSTAR;dSHAD;
    dNYIS SHAD;dTSHEG SHAD;dNYIS TSHEG SHAD;dRIN CHEN SPUNGS SHAD;eGYA GRAM SHAD;
    dCARET -DZUD RTAGS ME LONG CAN;dGTER TSHEG;8LOGOTYPE SIGN CHAD RTAGS;mLHAG RTAGS;
    8ASTROLOGICAL SIGN SGRA GCAN -CHAR RTAGS;q-KHYUD PA;qSDONG TSHUGS;8SIGN RDEL DKAR GCIG;
    oNYIS;oSUM;iNAG GCIG;nNYIS;iDKAR RDEL NAG;8DIGIT ZERO;eONE;eTWO;fHREE;eFOUR;fIVE;eSIX;fEVEN;
    eEIGHT;eNINE;eHALF ONE;jTWO;kHREE;jFOUR;kIVE;jSIX;kEVEN;jEIGHT;jNINE;jZERO;
    8MARK BSDUS RTAGS;dNGAS BZUNG NYI ZLA;dCARET -DZUD RTAGS BZHI MIG CAN;
    dNGAS BZUNG SGOR RTAGS;dCHE MGO;dTSA -PHRU;dGUG RTAGS GYON;pAS;dANG KHANG GYON;pAS;
    8SIGN YAR TSHES;dMAR TSHES;8LETTER KA;gHA;fGA;gHA;fNGA;fCA;gHA;fJA;F49=fNYA;fTTA;hHA;fDDA;
    hHA;fNNA;fTA;gHA;fDA;gHA;fNA;fPA;gHA;fBA;gHA;fMA;fTSA;hHA;fDZA;hHA;fWA;fZHA;gA;f-A;fYA;fRA;
    fLA;fSHA;gSA;gA;fHA;fA;fKSSA;fFIXED-FORM RA;fKKA;fRRA;F71=8VOWEL SIGN AA;jI;kI;jU;kU;
    jVOCALIC R;sR;rL;sL;jE;kE;jO;kO;8SIGN RJES SU NGA RO;eNAM BCAD;8VOWEL SIGN REVERSED I;tI;
    8SIGN NYI ZLA NAA DA;dSNA LDAN;8MARK HALANTA;dPALUTA;8SIGN LCI RTAGS;dYANG RTAGS;
    dLCE TSA CAN;dMCHU CAN;dGRU CAN RGYINGS;hMED RGYINGS;dINVERTED MCHU CAN;
    9UBJOINED SIGN LCE TSA CAN;nMCHU CAN;nINVERTED MCHU CAN;iLETTER KA;qHA;pGA;qHA;pNGA;pCA;qHA;
    pJA;F99=pNYA;pTTA;rHA;pDDA;rHA;pNNA;pTA;qHA;pDA;qHA;pNA;pPA;qHA;pBA;qHA;pMA;pTSA;rHA;pDZA;
    rHA;pWA;pZHA;qA;p-A;pYA;pRA;pLA;pSHA;qSA;qA;pHA;pA;pKSSA;pFIXED-FORM WA;AYA;ARA;
    FBE=8KU RU KHA;h BZHI MIG CAN;8CANTILLATION SIGN HEAVY BEAT;qLIGHT BEAT;qCANG TE-U;
    qSBUB -CHAL;8SYMBOL DRIL BU;fRDO RJE;fPADMA GDAN;fRDO RJE RGYA GRAM;fPHUR PA;fNOR BU;
    l NYIS -KHYIL;mGSUM -KHYIL;mBZHI -KHYIL;FCE=9IGN RDEL NAG RDEL DKAR;mGSUM;
    8MARK BSKA- SHOG GI MGO RGYAN;dMNYAM YIG GI MGO RGYAN;dNYIS TSHEG;
    dINITIAL BRDA RNYING YIG MGO MDUN MA;dCLOSING BRDA RNYING YIG MGO SGAB MA;
    0RIGHT-FACING SVASTI SIGN;0LEFT-FACING SVASTI SIGN;0RIGHT-FACING SVASTI SIGN WITH DOTS;
    0LEFT-FACING SVASTI SIGN WITH DOTS;0TIBETAN MARK LEADING MCHAN RTAGS;dTRAILING MCHAN RTAGS;
    1000=0MYANMAR LETTER KA;gHA;fGA;gHA;fNGA;fCA;gHA;fJA;gHA;fNYA;gNYA;fTTA;hHA;fDDA;hHA;fNNA;
    fTA;gHA;fDA;gHA;fNA;fPA;gHA;fBA;gHA;fMA;fYA;fRA;fLA;fWA;fSA;fHA;fLLA;fA;fSHAN A;fI;gI;fU;gU;
    fE;fMON E;fO;fAU;8VOWEL SIGN TALL AA;jAA;jI;kI;jU;kU;jE;jAI;jMON II;nO;jE ABOVE;
    8SIGN ANUSVARA;dDOT BELOW;dVISARGA;fRAMA;dASAT;8CONSONANT SIGN MEDIAL YA;uRA;uWA;uHA;
    8LETTER GREAT SA;8DIGIT ZERO;eONE;eTWO;fHREE;eFOUR;fIVE;eSIX;fEVEN;eEIGHT;eNINE;
    8SIGN LITTLE SECTION;dSECTION;9YMBOL LOCATIVE;fCOMPLETED;fAFOREMENTIONED;fGENITIVE;
    8LETTER SHA;gSA;fVOCALIC R;oR;nL;oL;8VOWEL SIGN VOCALIC R;sR;rL;sL;8LETTER MON NGA;jJHA;
    jBBA;lE;8CONSONANT SIGN MON MEDIAL NA;yMA;yLA;8LETTER SGAW KAREN SHA;
    8VOWEL SIGN SGAW KAREN EU;8TONE MARK SGAW KAREN HATHI;tKE PHO;8LETTER WESTERN PWO KAREN THA;
    xPWA;8VOWEL SIGN WESTERN PWO KAREN EU;BUE;8SIGN WESTERN PWO KAREN TONE-1;A2;A3;A4;A5;
    8LETTER EASTERN PWO KAREN NNA;xYWA;xGHWA;8VOWEL SIGN GEBA KAREN I;jKAYAH OE;pU;pEE;
    8LETTER SHAN KA;lHA;kGA;kCA;kZA;kNYA;kDA;kNA;kPHA;kFA;kBA;kTHA;kHA;
    8CONSONANT SIGN SHAN MEDIAL WA;8VOWEL SIGN SHAN AA;oE;p ABOVE;oFINAL Y;8SIGN SHAN TONE-2;n3;
    n5;n6;iCOUNCIL TONE-2;v3;qEMPHATIC TONE;8LETTER RUMAI PALAUNG FA;8SIGN RUMAI PALAUNG TONE-5;
    9HAN DIGIT ZERO;jONE;jTWO;kHREE;jFOUR;kIVE;jSIX;kEVEN;jEIGHT;jNINE;9IGN KHAMTI TONE-1;p3;
    8VOWEL SIGN AITON A;qI;8SYMBOL SHAN ONE;kEXCLAMATION;0GEORGIAN CAPITAL LETTER AN;oBAN;oGAN;
    oDON;oEN;oVIN;oZEN;oTAN;oIN;oKAN;oLAS;oMAN;oNAR;oON;oPAR;oZHAR;oRAE;oSAN;oTAR;oUN;oPHAR;
    oKHAR;oGHAN;oQAR;oSHIN;oCHIN;pAN;oJIL;oCIL;pHAR;oXAN;oJHAN;oHAE;pE;pIE;oWE;oHAR;pOE;
    10C7=oYN;10CD=oAEN;10D0=9LETTER AN;gBAN;gGAN;gDON;gEN;gVIN;gZEN;gTAN;gIN;gKAN;gLAS;gMAN;
    gNAR;gON;gPAR;gZHAR;gRAE;gSAN;gTAR;gUN;gPHAR;gKHAR;gGHAN;gQAR;gSHIN;gCHIN;hAN;gJIL;gCIL;
    hHAR;gXAN;gJHAN;gHAE;hE;hIE;gWE;gHAR;hOE;gFI;gYN;gELIFI;gTURNED GAN;gAIN;
    9PARAGRAPH SEPARATOR;0MODIFIER LETTER GEORGIAN NAR;0GEORGIAN LETTER AEN;gHARD SIGN;
    gLABIAL SIGN;0HANGUL CHOSEONG KIYEOK;gSSANGKIYEOK;gNIEUN;gTIKEUT;gSSANGTIKEUT;gRIEUL;gMIEUM;
    gPIEUP;gSSANGPIEUP;hIOS;hSANGSIOS;gIEUNG;gCIEUC;gSSANGCIEUC;gCHIEUCH;gKHIEUKH;gTHIEUTH;
    gPHIEUPH;gHIEUH;gNIEUN-KIYEOK;gSSANGNIEUN;gNIEUN-TIKEUT;mPIEUP;gTIKEUT-KIYEOK;gRIEUL-NIEUN;
    gSSANGRIEUL;gRIEUL-HIEUH;gKAPYEOUNRIEUL;gMIEUM-PIEUP;gKAPYEOUNMIEUM;gPIEUP-KIYEOK;mNIEUN;
    mTIKEUT;mSIOS;q-KIYEOK;rTIKEUT;rPIEUP;nSANGSIOS;nIOS-CIEUC;mCIEUC;nHIEUCH;mTHIEUTH;mPHIEUPH;
    gKAPYEOUNPIEUP;oSSANGPIEUP;gSIOS-KIYEOK;lNIEUN;lTIKEUT;lRIEUL;lMIEUM;lPIEUP;q-KIYEOK;
    lSSANGSIOS;lIEUNG;lCIEUC;mHIEUCH;lKHIEUKH;lTHIEUTH;lPHIEUPH;lHIEUH;gCHITUEUMSIOS;pSANGSIOS;
    hEONGCHIEUMSIOS;sSANGSIOS;gPANSIOS;gIEUNG-KIYEOK;mTIKEUT;mMIEUM;mPIEUP;mSIOS;mPANSIOS;
    gSSANGIEUNG;gIEUNG-CIEUC;nHIEUCH;mTHIEUTH;mPHIEUPH;gYESIEUNG;gCIEUC-IEUNG;hHITUEUMCIEUC;
    oSSANGCIEUC;hEONGCHIEUMCIEUC;rSSANGCIEUC;hHIEUCH-KHIEUKH;oHIEUH;jTUEUMCHIEUCH;
    hEONGCHIEUMCHIEUCH;gPHIEUPH-PIEUP;gKAPYEOUNPHIEUPH;gSSANGHIEUH;gYEORINHIEUH;gKIYEOK-TIKEUT;
    gNIEUN-SIOS;mCIEUC;mHIEUH;gTIKEUT-RIEUL;gFILLER;7JUNGSEONG FILLER;hA;iE;hYA;jE;hEO;i;hYEO;j;
    hO;hWA;jE;hOE;hYO;hU;hWEO;j;iI;hYU;hEU;hYI;hI;hA-O;jU;hYA-O;kYO;hEO-O;kU;kEU;hYEO-O;lU;
    hO-EO;k;jYE;jO;jU;hYO-YA;mE;lEO;kO;kI;hU-A;kE;jEO-EU;jYE;jU;hYU-A;kEO;l;kYEO;m;kU;kI;hEU-U;
    kEU;hYI-U;hI-A;jYA;jO;jU;jEU;jARAEA;hARAEA;m-EO;nU;nI;hSSANGARAEA;hA-EU;hYA-U;iEO-YA;hO-YA;
    lE;8ONGSEONG KIYEOK;hSSANGKIYEOK;hKIYEOK-SIOS;hNIEUN;m-CIEUC;nHIEUH;hTIKEUT;hRIEUL;m-KIYEOK;
    nMIEUM;nPIEUP;nSIOS;nTHIEUTH;nPHIEUPH;nHIEUH;hMIEUM;hPIEUP;m-SIOS;hSIOS;iSANGSIOS;hIEUNG;
    hCIEUC;iHIEUCH;hKHIEUKH;hTHIEUTH;hPHIEUPH;hHIEUH;hKIYEOK-RIEUL;oSIOS-KIYEOK;hNIEUN-KIYEOK;
    nTIKEUT;nSIOS;nPANSIOS;nTHIEUTH;hTIKEUT-KIYEOK;oRIEUL;hRIEUL-KIYEOK-SIOS;nNIEUN;nTIKEUT;
    t-HIEUH;hSSANGRIEUL;hRIEUL-MIEUM-KIYEOK;tSIOS;nPIEUP-SIOS;tHIEUH;nKAPYEOUNPIEUP;nSSANGSIOS;
    nPANSIOS;nKHIEUKH;nYEORINHIEUH;hMIEUM-KIYEOK;nRIEUL;nPIEUP;nSIOS;oSANGSIOS;nPANSIOS;
    nCHIEUCH;nHIEUH;hKAPYEOUNMIEUM;hPIEUP-RIEUL;nPHIEUPH;nHIEUH;hKAPYEOUNPIEUP;hSIOS-KIYEOK;
    mTIKEUT;mRIEUL;mPIEUP;hPANSIOS;hIEUNG-KIYEOK;nSSANGKIYEOK;hSSANGIEUNG;hIEUNG-KHIEUKH;
    hYESIEUNG;p-SIOS;qPANSIOS;hPHIEUPH-PIEUP;hKAPYEOUNPHIEUPH;hHIEUH-NIEUN;nRIEUL;nMIEUM;nPIEUP;
    hYEORINHIEUH;hKIYEOK-NIEUN;oPIEUP;oCHIEUCH;oKHIEUKH;oHIEUH;hSSANGNIEUN;
    0ETHIOPIC SYLLABLE HA;jU;jI;jAA;jEE;k;jO;kA;iLA;jU;jI;jAA;jEE;k;jO;jWA;iHHA;kU;kI;kAA;kEE;l;
    kO;kWA;iMA;jU;jI;jAA;jEE;k;jO;jWA;iSZA;kU;kI;kAA;kEE;l;kO;kWA;iRA;jU;jI;jAA;jEE;k;jO;jWA;
    iSA;jU;jI;jAA;jEE;k;jO;jWA;jHA;kU;kI;kAA;kEE;l;kO;kWA;iQA;jU;jI;jAA;jEE;k;jO;kA;jWA;124A=kI;
    kAA;kEE;l;1250=jHA;kU;kI;kAA;kEE;l;kO;1258=kWA;125A=lI;lAA;lEE;m;1260=iBA;jU;jI;jAA;jEE;k;
    jO;jWA;iVA;jU;jI;jAA;jEE;k;jO;jWA;iTA;jU;jI;jAA;jEE;k;jO;jWA;iCA;jU;jI;jAA;jEE;k;jO;jWA;iXA;
    jU;jI;jAA;jEE;k;jO;kA;jWA;128A=kI;kAA;kEE;l;1290=iNA;jU;jI;jAA;jEE;k;jO;jWA;jYA;kU;kI;kAA;
    kEE;l;kO;kWA;iGLOTTAL A;qU;qI;qAA;qEE;r;qO;qWA;iKA;jU;jI;jAA;jEE;k;jO;kA;jWA;12B2=kI;kAA;
    kEE;l;12B8=jXA;kU;kI;kAA;kEE;l;kO;12C0=kWA;12C2=lI;lAA;lEE;m;12C8=iWA;jU;jI;jAA;jEE;k;jO;kA;
    iPHARYNGEAL A;tU;tI;tAA;tEE;u;tO;12D8=iZA;jU;jI;jAA;jEE;k;jO;jWA;jHA;kU;kI;kAA;kEE;l;kO;kWA;
    iYA;jU;jI;jAA;jEE;k;jO;kA;iDA;jU;jI;jAA;jEE;k;jO;jWA;jDA;kU;kI;kAA;kEE;l;kO;kWA;iJA;jU;jI;
    jAA;jEE;k;jO;jWA;iGA;jU;jI;jAA;jEE;k;jO;kA;jWA;1312=kI;kAA;kEE;l;1318=jGA;kU;kI;kAA;kEE;l;
    kO;kWAA;iTHA;kU;kI;kAA;kEE;l;kO;kWA;iCHA;kU;kI;kAA;kEE;l;kO;kWA;iPHA;kU;kI;kAA;kEE;l;kO;kWA;
    iTSA;kU;kI;kAA;kEE;l;kO;kWA;jZA;kU;kI;kAA;kEE;l;kO;lA;iFA;jU;jI;jAA;jEE;k;jO;jWA;iPA;jU;jI;
    jAA;jEE;k;jO;jWA;iRYA;iMYA;iFYA;135D=9COMBINING GEMINATION AND VOWEL LENGTH MARK;
    jVOWEL LENGTH MARK;jGEMINATION MARK;9SECTION MARK;9WORDSPACE;9FULL STOP;9COMMA;9SEMICOLON;
    9COLON;9PREFACE COLON;9QUESTION MARK;9PARAGRAPH SEPARATOR;9DIGIT ONE;fTWO;gHREE;fFOUR;gIVE;
    fSIX;gEVEN;fEIGHT;fNINE;9NUMBER TEN;hWENTY;hHIRTY;gFORTY;hIFTY;gSIXTY;hEVENTY;gEIGHTY;
    gNINETY;gHUNDRED;gTEN THOUSAND;1380=9SYLLABLE SEBATBEIT MWA;iMWI;kEE;l;iSEBATBEIT BWA;iBWI;
    kEE;l;iSEBATBEIT FWA;iFWI;kEE;l;iSEBATBEIT PWA;iPWI;kEE;l;9TONAL MARK YIZET;kDERET;kRIKRIK;
    kSHORT RIKRIK;kDIFAT;kKENAT;kCHIRET;kHIDET;kDERET-HIDET;kKURT;13A0=0CHEROKEE LETTER A;gE;gI;
    gO;gU;gV;gGA;gKA;gGE;hI;hO;hU;hV;gHA;hE;hI;hO;hU;hV;gLA;hE;hI;hO;hU;hV;gMA;hE;hI;hO;hU;gNA;
    gHNA;gNAH;hE;hI;hO;hU;hV;gQUA;iE;iI;iO;iU;iV;gSA;h;hE;hI;hO;hU;hV;gDA;gTA;gDE;gTE;gDI;gTI;
    gDO;hU;hV;hLA;gTLA;iE;iI;iO;iU;iV;hSA;iE;iI;iO;iU;iV;gWA;hE;hI;hO;hU;hV;gYA;hE;hI;hO;hU;hV;
    gMV;13F8=9SMALL LETTER YE;nI;nO;nU;nV;mMV;1400=1ANADIAN SYLLABICS HYPHEN;jE;jAAI;jI;kI;jO;
    kO;jY-CREE OO;jCARRIER EE;rI;jA;kA;jWE;lST-CREE WE;kI;kEST-CREE WI;kII;kEST-CREE WII;kO;
    kEST-CREE WO;kOO;kEST-CREE WOO;jNASKAPI WOO;jWA;kEST-CREE WA;kAA;kEST-CREE WAA;jNASKAPI WAA;
    jAI;jY-CREE W;jGLOTTAL STOP;jFINAL ACUTE;pGRAVE;pBOTTOM HALF RING;pTOP HALF RING;
    pRIGHT HALF RING;rNG;pDOUBLE ACUTE;wSHORT VERTICAL STROKES;pMIDDLE DOT;
    pSHORT HORIZONTAL STROKE;pPLUS;pDOWN TACK;jEN;jIN;jON;jAN;jPE;kAAI;kI;lI;kO;lO;jY-CREE POO;
    jCARRIER HEE;sI;jPA;lA;kWE;jWEST-CREE PWE;jPWI;jWEST-CREE PWI;jPWII;jWEST-CREE PWII;jPWO;
    jWEST-CREE PWO;jPWOO;jWEST-CREE PWOO;jPWA;jWEST-CREE PWA;jPWAA;jWEST-CREE PWAA;jY-CREE PWAA;
    jP;jWEST-CREE P;jCARRIER H;jTE;kAAI;kI;lI;kO;lO;jY-CREE TOO;jCARRIER DEE;sI;jTA;lA;kWE;
    jWEST-CREE TWE;jTWI;jWEST-CREE TWI;jTWII;jWEST-CREE TWII;jTWO;jWEST-CREE TWO;jTWOO;
    jWEST-CREE TWOO;jTWA;jWEST-CREE TWA;jTWAA;jWEST-CREE TWAA;jNASKAPI TWAA;jT;kTE;lI;lO;lA;jKE;
    kAAI;kI;lI;kO;lO;jY-CREE KOO;jKA;lA;kWE;jWEST-CREE KWE;jKWI;jWEST-CREE KWI;jKWII;
    jWEST-CREE KWII;jKWO;jWEST-CREE KWO;jKWOO;jWEST-CREE KWOO;jKWA;jWEST-CREE KWA;jKWAA;
    jWEST-CREE KWAA;jNASKAPI KWAA;jK;kW;jSOUTH-SLAVEY KEH;xIH;xOH;xAH;jCE;kAAI;kI;lI;kO;lO;
    jY-CREE COO;jCA;lA;kWE;jWEST-CREE CWE;jCWI;jWEST-CREE CWI;jCWII;jWEST-CREE CWII;jCWO;
    jWEST-CREE CWO;jCWOO;jWEST-CREE CWOO;jCWA;jWEST-CREE CWA;jCWAA;jWEST-CREE CWAA;
    jNASKAPI CWAA;jC;jSAYISI TH;jME;kAAI;kI;lI;kO;lO;jY-CREE MOO;jMA;lA;kWE;jWEST-CREE MWE;jMWI;
    jWEST-CREE MWI;jMWII;jWEST-CREE MWII;jMWO;jWEST-CREE MWO;jMWOO;jWEST-CREE MWOO;jMWA;
    jWEST-CREE MWA;jMWAA;jWEST-CREE MWAA;jNASKAPI MWAA;jM;jWEST-CREE M;jMH;jATHAPASCAN M;
    jSAYISI M;jNE;kAAI;kI;lI;kO;lO;jY-CREE NOO;jNA;lA;kWE;jWEST-CREE NWE;jNWA;jWEST-CREE NWA;
    jNWAA;jWEST-CREE NWAA;jNASKAPI NWAA;k;jCARRIER NG;jNH;jLE;kAAI;kI;lI;kO;lO;jY-CREE LOO;jLA;
    lA;kWE;jWEST-CREE LWE;jLWI;jWEST-CREE LWI;jLWII;jWEST-CREE LWII;jLWO;jWEST-CREE LWO;jLWOO;
    jWEST-CREE LWOO;jLWA;jWEST-CREE LWA;jLWAA;jWEST-CREE LWAA;jL;jWEST-CREE L;jMEDIAL L;jSE;
    kAAI;kI;lI;kO;lO;jY-CREE SOO;jSA;lA;kWE;jWEST-CREE SWE;jSWI;jWEST-CREE SWI;jSWII;
    jWEST-CREE SWII;jSWO;jWEST-CREE SWO;jSWOO;jWEST-CREE SWOO;jSWA;jWEST-CREE SWA;jSWAA;
    jWEST-CREE SWAA;jNASKAPI SWAA;jS;jATHAPASCAN S;jSW;jBLACKFOOT S;jMOOSE-CREE SK;jNASKAPI SKW;
    s-W;sPWA;sTWA;sKWA;sCWA;jSHE;lI;mI;lO;mO;lA;mA;lWE;jWEST-CREE SHWE;jSHWI;jWEST-CREE SHWI;
    jSHWII;jWEST-CREE SHWII;jSHWO;jWEST-CREE SHWO;jSHWOO;jWEST-CREE SHWOO;jSHWA;jWEST-CREE SHWA;
    jSHWAA;jWEST-CREE SHWAA;jSH;jYE;kAAI;kI;lI;kO;lO;k-CREE YOO;kA;lA;kWE;jWEST-CREE YWE;jYWI;
    jWEST-CREE YWI;jYWII;jWEST-CREE YWII;jYWO;jWEST-CREE YWO;jYWOO;jWEST-CREE YWOO;jYWA;
    jWEST-CREE YWA;jYWAA;jWEST-CREE YWAA;jNASKAPI YWAA;jY;jBIBLE-CREE Y;jWEST-CREE Y;jSAYISI YI;
    jRE;k-CREE RE;jWEST-CREE LE;jRAAI;kI;lI;kO;lO;jWEST-CREE LO;jRA;lA;jWEST-CREE LA;jRWAA;
    jWEST-CREE RWAA;jR;jWEST-CREE R;jMEDIAL R;jFE;kAAI;kI;lI;kO;lO;kA;lA;kWAA;jWEST-CREE FWAA;
    jF;jTHE;jN-CREE THE;jTHI;jN-CREE THI;jTHII;jN-CREE THII;jTHO;mO;lA;mA;lWAA;jWEST-CREE THWAA;
    jTH;kTHE;mI;mO;mA;m;kYE;lI;lO;lA;jNUNAVIK HE;sI;tI;sO;tO;sA;tA;s;oUT H;jHK;jQAAI;kI;lI;kO;
    lO;kA;lA;k;jTLHE;mI;mO;mA;jWEST-CREE RE;uI;uO;uA;jNGAAI;lI;mI;lO;mO;lA;mA;l;kNG;jSAYISI SHE;
    sI;sO;sA;jWOODS-CREE THE;wI;wO;wA;w;jLHI;mI;lO;mO;lA;mA;l;jTH-CREE THE;tI;uI;tO;uO;tA;uA;t;
    jAIVILIK B;jBLACKFOOT E;tI;tO;tA;tWE;uI;uO;uA;tNE;uI;uO;uA;tKE;uI;uO;uA;jSAYISI HE;rI;rO;rA;
    jCARRIER GHU;tO;tE;uE;tI;tA;rRU;sO;sE;tE;sI;sA;rWU;sO;sE;tE;sI;sA;rHWU;tO;tE;uE;tI;tA;rTHU;
    tO;tE;uE;tI;tA;sTU;tO;tE;uE;tI;tA;rPU;sO;sE;tE;sI;sA;s;rGU;sO;sE;tE;sI;sA;rKHU;tO;tE;uE;tI;
    tA;sKU;tO;tE;uE;tI;tA;t;rNU;sO;sE;tE;sI;sA;rMU;sO;sE;tE;sI;sA;rYU;sO;sE;tE;sI;sA;rJU;
    jSAYISI JU;jCARRIER JO;sE;tE;sI;jSAYISI JI;jCARRIER JA;sJU;tO;tE;uE;tI;tA;rLU;sO;sE;tE;sI;
    sA;rDLU;tO;tE;uE;tI;tA;rLHU;tO;tE;uE;tI;tA;rTLHU;uO;uE;vE;uI;uA;tU;tO;tE;uE;tI;tA;rZU;sO;sE;
    tE;sI;sA;s;rINITIAL Z;rDZU;tO;tE;uE;tI;tA;rSU;sO;sE;tE;sI;sA;sHU;tO;tE;uE;tI;tA;t;rTSU;tO;
    tE;uE;tI;tA;rCHU;tO;tE;uE;tI;tA;rTTSU;uO;uE;vE;uI;uA;kHI SIGN;jFULL STOP;jQAI;jNGAI;kNGI;nI;
    mO;nO;mA;nA;jWOODS-CREE THWEE;xI;yI;xO;yO;xA;yA;uFINAL TH;jBLACKFOOT W;0OGHAM SPACE MARK;
    6LETTER BEITH;dLUIS;dFEARN;dSAIL;dNION;dUATH;dDAIR;dTINNE;dCOLL;eEIRT;dMUIN;dGORT;dNGEADAL;
    dSTRAIF;dRUIS;dAILM;dONN;dUR;dEADHADH;dIODHADH;dEABHADH;dOR;dUILLEANN;dIFIN;dEAMHANCHOLL;
    dPEITH;6FEATHER MARK;6REVERSED FEATHER MARK;16A0=0RUNIC LETTER FEHU FEOH FE F;dV;dURUZ UR U;
    dYR;e;dW;dTHURISAZ THURS THORN;dETH;dANSUZ A;dOS O;dAC A;eESC;dLONG-BRANCH-OSS O;
    dSHORT-TWIG-OSS O;dO;eE;eN;dRAIDO RAD REID R;dKAUNA;dCEN;dKAUN K;dG;dENG;dGEBO GYFU G;eAR;
    dWUNJO WYNN W;dHAGLAZ H;fEGL H;dLONG-BRANCH-HAGALL H;dSHORT-TWIG-HAGALL H;
    dNAUDIZ NYD NAUD N;dSHORT-TWIG-NAUD N;dDOTTED-N;dISAZ IS ISS I;dE;dJERAN J;dGER;
    dLONG-BRANCH-AR AE;dSHORT-TWIG-AR A;dIWAZ EOH;dPERTHO PEORTH P;dALGIZ EOLHX;dSOWILO S;
    eIGEL LONG-BRANCH-SOL S;eHORT-TWIG-SOL S;dC;dZ;dTIWAZ TIR TYR T;dSHORT-TWIG-TYR T;dD;
    dBERKANAN BEORC BJARKAN B;dSHORT-TWIG-BJARKAN B;dDOTTED-P;dOPEN-P;dEHWAZ EH E;dMANNAZ MAN M;
    dLONG-BRANCH-MADR M;dSHORT-TWIG-MADR M;dLAUKAZ LAGU LOGR L;dDOTTED-L;dINGWAZ;g;
    dDAGAZ DAEG D;dOTHALAN ETHEL O;dEAR;dIOR;dCWEORTH;eALC;eEALC;dSTAN;dLONG-BRANCH-YR;
    dSHORT-TWIG-YR;dICELANDIC-YR;dQ;dX;6SINGLE PUNCTUATION;6MULTIPLE PUNCTUATION;
    6CROSS PUNCTUATION;6ARLAUG SYMBOL;6TVIMADUR SYMBOL;6BELGTHOR SYMBOL;6LETTER K;dSH;dOO;
    dFRANKS CASKET OS;rIS;rEH;rAC;sESC;1700=0TAGALOG LETTER A;fI;fU;fKA;fGA;fNGA;fTA;fDA;fNA;
    fPA;fBA;fMA;fYA;fRA;fLA;fWA;fSA;fHA;8VOWEL SIGN I;jU;8SIGN VIRAMA;dPAMUDPOD;
    171F=8LETTER ARCHAIC RA;0HANUNOO LETTER A;fI;fU;fKA;fGA;fNGA;fTA;fDA;fNA;fPA;fBA;fMA;fYA;
    fRA;fLA;fWA;fSA;fHA;8VOWEL SIGN I;jU;8SIGN PAMUDPOD;0PHILIPPINE SINGLE PUNCTUATION;
    bDOUBLE PUNCTUATION;1740=0BUHID LETTER A;dI;dU;dKA;dGA;dNGA;dTA;dDA;dNA;dPA;dBA;dMA;dYA;dRA;
    dLA;dWA;dSA;dHA;6VOWEL SIGN I;hU;1760=0TAGBANWA LETTER A;gI;gU;gKA;gGA;gNGA;gTA;gDA;gNA;gPA;
    gBA;gMA;gYA;176E=gLA;gWA;gSA;1772=9VOWEL SIGN I;kU;1780=0KHMER LETTER KA;eHA;eO;eHO;dNGO;
    dCA;eHA;eO;eHO;dNYO;dDA;dTTHA;dDO;dTTHO;dNNO;dTA;eHA;eO;eHO;dNO;dBA;dPHA;eO;eHO;dMO;dYO;dRO;
    dLO;dVO;dSHA;eSO;eA;dHA;dLA;dQA;6INDEPENDENT VOWEL QAQ;qA;pI;qI;pU;qK;qU;rV;oRY;qY;oLY;qY;
    oQE;pAI;pOO TYPE ONE;xTWO;pAU;6VOWEL INHERENT AQ;mA;cSIGN AA;hI;iI;hY;iY;hU;iU;iA;hOE;hYA;
    hIE;hE;hAE;iI;hOO;hAU;6SIGN NIKAHIT;bREAHMUK;bYUUKALEAPINTU;bMUUSIKATOAN;bTRIISAP;bBANTOC;
    bROBAT;bTOANDAKHIAT;bKAKABAT;bAHSDA;bSAMYOK SANNYA;bVIRIAM;bCOENG;bBATHAMASAT;bKHAN;
    bBARIYOOSAN;bCAMNUC PII KUUH;bLEK TOO;bBEYYAL;bPHNAEK MUAN;bKOOMUUT;6CURRENCY SYMBOL RIEL;
    6SIGN AVAKRAHASANYA;cTTHACAN;17E0=6DIGIT ZERO;cONE;cTWO;dHREE;cFOUR;dIVE;cSIX;dEVEN;cEIGHT;
    cNINE;17F0=6SYMBOL LEK ATTAK SON;nMUOY;nPII;nBEI;oUON;nPRAM;r-MUOY;sPII;sBEI;tUON;
    1800=0MONGOLIAN BIRGA;aELLIPSIS;aCOMMA;aFULL STOP;aCOLON;aFOUR DOTS;aTODO SOFT HYPHEN;
    aSIBE SYLLABLE BOUNDARY MARKER;aMANCHU COMMA;hFULL STOP;aNIRUGU;
    aFREE VARIATION SELECTOR ONE;yTWO;zHREE;aVOWEL SEPARATOR;aFREE VARIATION SELECTOR FOUR;
    aDIGIT ZERO;gONE;gTWO;hHREE;gFOUR;hIVE;gSIX;hEVEN;gEIGHT;gNINE;1820=aLETTER A;hE;hI;hO;hU;
    hOE;hUE;hEE;hNA;hANG;hBA;hPA;hQA;hGA;hMA;hLA;hSA;iHA;hTA;hDA;hCHA;hJA;hYA;hRA;hWA;hFA;hKA;
    iHA;hTSA;hZA;hHAA;hZRA;hLHA;hZHI;hCHI;hTODO LONG VOWEL SIGN;mE;mI;mO;mU;mOE;mUE;mANG;mBA;
    mPA;mQA;mGA;mMA;mTA;mDA;mCHA;mJA;mTSA;mYA;mWA;mKA;mGAA;mHAA;mJIA;mNIA;mDZA;hSIBE E;mI;nY;
    mUE;n;mANG;mKA;mGA;mHA;mPA;mSHA;mTA;mDA;mJA;mFA;mGAA;mHAA;mTSA;mZA;mRAA;mCHA;mZHA;hMANCHU I;
    oKA;oRA;oFA;oZHA;hCHA WITH TWO DOTS;1880=hALI GALI ANUSVARA ONE;qVISARGA ONE;qDAMARU;
    qUBADAMA;qINVERTED UBADAMA;qBALUDA;qTHREE BALUDA;qA;qI;qKA;qNGA;qCA;qTTA;sHA;qDDA;qNNA;qTA;
    qDA;qPA;rHA;qSSA;qZHA;rA;qAH;hTODO ALI GALI TA;vZHA;hMANCHU ALI GALI GHA;xNGA;xCA;xJHA;xTTA;
    xDDHA;xTA;xDHA;xSSA;xCYA;xZHA;yA;hALI GALI HALF U;vYA;hMANCHU ALI GALI BHA;
    hALI GALI DAGALGA;hMANCHU ALI GALI LHA;18B0=0CANADIAN SYLLABICS OY;jAY;kAY;jWAY;jPOY;kAY;
    kWOY;jTAY;jKAY;kWAY;jMAY;jNOY;kAY;jLAY;jSOY;kAY;kHOY;lAY;lWOY;jYOY;kAY;jRAY;jNWI;
    jOJIBWAY NWI;jNWII;jOJIBWAY NWII;jNWO;jOJIBWAY NWO;jNWOO;jOJIBWAY NWOO;jRWEE;lI;mI;lO;mO;lA;
    jOJIBWAY P;rT;rK;rC;rM;rN;rS;sH;jEASTERN W;jWESTERN W;jFINAL SMALL RING;pRAISED DOT;
    jR-CREE RWE;jWEST-CREE LOO;uAA;jTHWE;mA;kTHWE;mOO;mAA;kLHWE;mOO;jSAYISI SHWE;sOO;qHOO;
    jCARRIER GWU;rDENE GEE;rGAA;sWA;jSAYISI JUU;jCARRIER JWA;jBEAVER DENE L;vR;
    jCARRIER DENTAL S;1900=0LIMBU VOWEL-CARRIER LETTER;6LETTER KA;eHA;dGA;eHA;dNGA;dCA;eHA;dJA;
    eHA;dYAN;dTA;eHA;dDA;eHA;dNA;dPA;eHA;dBA;eHA;dMA;dYA;dRA;dLA;dWA;dSHA;eSA;eA;dHA;dGYAN;dTRA;
    1920=6VOWEL SIGN A;hI;hU;hEE;hAI;hOO;hAU;hE;hO;6SUBJOINED LETTER YA;nRA;nWA;
    1930=7MALL LETTER KA;jNGA;jANUSVARA;jTA;jNA;jPA;jMA;jRA;jLA;7IGN MUKPHRENG;bKEMPHRENG;bSA-I;
    1940=bLOO;1944=6EXCLAMATION MARK;6QUESTION MARK;6DIGIT ZERO;cONE;cTWO;dHREE;cFOUR;dIVE;cSIX;
    dEVEN;cEIGHT;cNINE;0TAI LE LETTER KA;eXA;eNGA;eTSA;eSA;eYA;eTA;fHA;eLA;ePA;fHA;eMA;eFA;eVA;
    eHA;eQA;eKHA;eTSHA;eNA;eA;eI;eEE;fH;eU;eOO;f;eUE;eE;eAUE;fI;1970=eTONE-2;j3;j4;j5;j6;
    1980=0NEW TAI LUE LETTER HIGH QA;jLOW QA;jHIGH KA;oXA;oNGA;jLOW KA;nXA;nNGA;jHIGH TSA;oSA;
    oYA;jLOW TSA;nSA;nYA;jHIGH TA;pHA;oNA;jLOW TA;oHA;nNA;jHIGH PA;pHA;oMA;jLOW PA;oHA;nMA;
    jHIGH FA;oVA;oLA;jLOW FA;nVA;nLA;jHIGH HA;oDA;oBA;jLOW HA;nDA;nBA;jHIGH KVA;oXVA;jLOW KVA;
    nXVA;jHIGH SUA;jLOW SUA;19B0=cVOWEL SIGN VOWEL SHORTENER;nAA;nII;nU;oU;nE;nAE;nO;oA;nUE;nAY;
    oAY;nUY;nOY;oAY;nUEY;nIY;cLETTER FINAL V;pNG;q;pM;pK;pD;pB;cTONE MARK-1;m2;19D0=cDIGIT ZERO;
    iONE;iTWO;jHREE;iFOUR;jIVE;iSIX;jEVEN;iEIGHT;iNINE;cTHAM DIGIT ONE;19DE=cSIGN LAE;kV;
    0KHMER SYMBOL PATHAMASAT;dMUOY KOET;dPII KOET;dBEI KOET;eUON KOET;dPRAM KOET;h-MUOY KOET;
    iPII KOET;iBEI KOET;jUON KOET;dDAP KOET;g-MUOY KOET;hPII KOET;hBEI KOET;iUON KOET;
    hPRAM KOET;dTUTEYASAT;dMUOY ROC;dPII ROC;dBEI ROC;eUON ROC;dPRAM ROC;h-MUOY ROC;iPII ROC;
    iBEI ROC;jUON ROC;dDAP ROC;g-MUOY ROC;hPII ROC;hBEI ROC;iUON ROC;hPRAM ROC;
    0BUGINESE LETTER KA;gGA;gNGA;iKA;gPA;gBA;gMA;hPA;gTA;gDA;gNA;hRA;gCA;gJA;gNYA;iCA;gYA;gRA;
    gLA;gVA;gSA;gA;gHA;9VOWEL SIGN I;kU;kE;kO;kAE;1A1E=9PALLAWA;9END OF SECTION;
    0TAI THAM LETTER HIGH KA;mHA;mXA;gLOW KA;lXA;lHA;gNGA;gHIGH CA;mHA;gLOW CA;kSA;kCHA;gNYA;
    gRATA;gHIGH RATHA;gDA;gLOW RATHA;gRANA;gHIGH TA;mHA;gLOW TA;lHA;gNA;gBA;gHIGH PA;mHA;lFA;
    gLOW PA;kFA;kPHA;gMA;gLOW YA;gHIGH YA;gRA;hUE;gLA;hUE;gWA;gHIGH SHA;mSA;mA;lHA;gLLA;gA;
    gLOW HA;gI;hI;gU;hU;gEE;gOO;gLAE;gGREAT SA;9CONSONANT SIGN MEDIAL RA;vLA;oLA TANG LAI;
    9SIGN MAI KANG LAI;9CONSONANT SIGN FINAL NGA;oLOW PA;oHIGH RATHA OR LOW PA;oMA;oBA;oSA;
    1A60=9SIGN SAKOT;9VOWEL SIGN A;kMAI SAT;kAA;kTALL AA;kI;lI;kUE;lUE;l;lU;kO;lA BELOW;lY;kE;
    kAE;kOO;kAI;kTHAM AI;kOA ABOVE;9SIGN MAI KANG;eTONE-1;j2;eKHUEN TONE-3;p4;p5;eRA HAAM;
    eMAI SAM;eKHUEN-LUE KARAN;1A7F=9COMBINING CRYPTOGRAMMIC DOT;9HORA DIGIT ZERO;kONE;kTWO;
    lHREE;kFOUR;lIVE;kSIX;lEVEN;kEIGHT;kNINE;1A90=9THAM DIGIT ZERO;kONE;kTWO;lHREE;kFOUR;lIVE;
    kSIX;lEVEN;kEIGHT;kNINE;1AA0=9SIGN WIANG;jWAAK;eSAWAN;eKEOW;eHOY;eDOKMAI;
    eREVERSED ROTATED RANA;eMAI YAMOK;eKAAN;iKUU;eSATKAAN;lKUU;eHANG;eCAANG;
    1AB0=0COMBINING DOUBLED CIRCUMFLEX ACCENT;bIAERESIS-RING;aINFINITY;aDOWNWARDS ARROW;
    aTRIPLE DOT;aX-X BELOW;aWIGGLY LINE BELOW;aOPEN MARK BELOW;aDOUBLE OPEN MARK BELOW;
    aLIGHT CENTRALIZATION STROKE BELOW;aSTRONG CENTRALIZATION STROKE BELOW;aPARENTHESES ABOVE;
    aDOUBLE PARENTHESES ABOVE;aPARENTHESES BELOW;mOVERLAY;aLATIN SMALL LETTER W BELOW;
    tTURNED W BELOW;bEFT PARENTHESIS ABOVE LEFT;aRIGHT PARENTHESIS ABOVE RIGHT;
    aLEFT PARENTHESIS BELOW LEFT;aRIGHT PARENTHESIS BELOW RIGHT;aSQUARE BRACKETS ABOVE;
    aNUMBER SIGN ABOVE;aINVERTED DOUBLE ARCH ABOVE;aPLUS SIGN ABOVE;aDOUBLE PLUS SIGN ABOVE;
    rBELOW;aTRIPLE ACUTE ACCENT;aLATIN SMALL LETTER INSULAR G;BR;BT;
    1B00=0BALINESE SIGN ULU RICEM;iCANDRA;eCECEK;eSURANG;eBISAH;9LETTER AKARA;l TEDUNG;gIKARA;
    l TEDUNG;gUKARA;l TEDUNG;gRA REPA;n TEDUNG;gLA LENGA;o TEDUNG;gEKARA;gAIKARA;gOKARA;
    l TEDUNG;gKA;i MAHAPRANA;gGA;i GORA;gNGA;gCA;i LACA;gJA;i JERA;gNYA;gTA LATIK;
    jMURDA MAHAPRANA;gDA MURDA ALPAPRANA;pMAHAPRANA;gNA RAMBAT;gTA;i TAWA;gDA;i MADU;gNA;gPA;
    i KAPAL;gBA;i KEMBANG;gMA;gYA;gRA;gLA;gWA;gSA SAGA;lPA;i;gHA;9SIGN REREKAN;
    9VOWEL SIGN TEDUNG;kULU;n SARI;kSUKU;o ILUT;kRA REPA;r TEDUNG;kLA LENGA;s TEDUNG;kTALING;
    q REPA;rTEDUNG;rREPA TEDUNG;kPEPET;p TEDUNG;9ADEG ADEG;9LETTER KAF SASAK;hHOT SASAK;
    gTZIR SASAK;gEF SASAK;gVE SASAK;gZAL SASAK;gASYURA SASAK;hRCHAIC JNYA;1B50=9DIGIT ZERO;fONE;
    fTWO;gHREE;fFOUR;gIVE;fSIX;gEVEN;fEIGHT;fNINE;9PANTI;bMADA;9WINDU;9CARIK PAMUNGKAH;fSIKI;
    fPAREREN;9PAMENENG;9MUSICAL SYMBOL DONG;pENG;pUNG;pANG;s SURANG;pING;pAENG;pEUNG;pAING;
    qNG GEDE;oCOMBINING TEGEH;yENDEP;yKEMPUL;CLI;yJEGOGAN;yKEMPUL WITH JEGOGAN;CLI WITH JEGOGAN;
    yBENDE;yGONG;oRIGHT-HAND OPEN DUG;FAG;zCLOSED TUK;HAK;oLEFT-HAND OPEN PANG;EUNG;
    yCLOSED PLAK;HUK;yOPEN PING;9PANTI LANTANG;bMADA LANTANG;1B80=0SUNDANESE SIGN PANYECEK;
    iGLAYAR;jWISAD;aLETTER A;hI;hU;hAE;hO;hE;iU;hKA;hQA;hGA;hNGA;hCA;hJA;hZA;hNYA;hTA;hDA;hNA;
    hPA;hFA;hVA;hBA;hMA;hYA;hRA;hLA;hWA;hSA;hXA;hHA;aCONSONANT SIGN PAMINGKAL;rNYAKRA;tIKU;
    aVOWEL SIGN PANGHULU;oYUKU;oAELAENG;oOLONG;nMEPET;nNEULEUNG;aSIGN PAMAAEH;fVIRAMA;
    aCONSONANT SIGN PASANGAN MA;yWA;aLETTER KHA;hSYA;aDIGIT ZERO;gONE;gTWO;hHREE;gFOUR;hIVE;
    gSIX;hEVEN;gEIGHT;gNINE;aAVAGRAHA;aLETTER REU;hLEU;hBHA;hFINAL K;nM;0BATAK LETTER A;
    dSIMALUNGUN A;dHA;dSIMALUNGUN HA;dMANDAILING HA;dBA;dKARO BA;dPA;dSIMALUNGUN PA;dNA;
    dMANDAILING NA;dWA;dSIMALUNGUN WA;dPAKPAK WA;dGA;dSIMALUNGUN GA;dJA;dDA;dRA;dSIMALUNGUN RA;
    dMA;dSIMALUNGUN MA;eOUTHERN TA;dNORTHERN TA;dSA;eIMALUNGUN SA;dMANDAILING SA;dYA;
    dSIMALUNGUN YA;dNGA;dLA;dSIMALUNGUN LA;dNYA;dCA;dNDA;dMBA;dI;dU;6SIGN TOMPI;6VOWEL SIGN E;
    hPAKPAK E;hEE;hI;hKARO I;hO;hKARO O;hU;i FOR SIMALUNGUN SA;6CONSONANT SIGN NG;lH;6PANGOLAT;
    9ONGONAN;1BFC=6SYMBOL BINDU NA METEK;jPINARBORAS;jJUDUL;jPANGOLAT;0LEPCHA LETTER KA;fLA;fHA;
    eGA;fLA;eNGA;eCA;fHA;eJA;eNYA;eTA;fHA;eDA;eNA;ePA;fLA;fHA;eFA;fLA;eBA;fLA;eMA;fLA;eTSA;gHA;
    eDZA;eYA;eRA;eLA;eHA;fLA;eVA;eSA;fHA;eWA;eA;7SUBJOINED LETTER YA;oRA;7VOWEL SIGN AA;iI;iO;
    jO;iU;jU;iE;7CONSONANT SIGN K;mM;mL;mN;mP;mR;mT;mNYIN-DO;mKANG;7SIGN RAN;cNUKTA;
    1C3B=7PUNCTUATION TA-ROL;jNYET THYOOM TA-ROL;jCER-WA;jTSHOOK CER-WA;p;7DIGIT ZERO;dONE;dTWO;
    eHREE;dFOUR;eIVE;dSIX;eEVEN;dEIGHT;dNINE;1C4D=7LETTER TTA;gHA;eDDA;0OL CHIKI DIGIT ZERO;
    fONE;fTWO;gHREE;fFOUR;gIVE;fSIX;gEVEN;fEIGHT;fNINE;9LETTER LA;gAT;hG;hNG;hL;gLAA;gAAK;iJ;iM;
    iW;gLI;gIS;hH;hNY;hR;gLU;gUC;hD;hNN;hY;gLE;gEP;hDD;hN;hRR;gLO;gOTT;hB;hV;hH;9MU TTUDDAG;
    9GAAHLAA TTUDDAAG;9MU-GAAHLAA TTUDDAAG;9RELAA;9PHAARKAA;9AHAD;9PUNCTUATION MUCAAD;
    lDOUBLE MUCAAD;0CYRILLIC SMALL LETTER ROUNDED VE;mLONG-LEGGED DE;mNARROW O;mWIDE ES;
    mTALL TE;nHREE-LEGGED TE;nALL HARD SIGN;rYAT;mUNBLENDED UK;
    1C90=0GEORGIAN MTAVRULI CAPITAL LETTER AN;xBAN;xGAN;xDON;xEN;xVIN;xZEN;xTAN;xIN;xKAN;xLAS;
    xMAN;xNAR;xON;xPAR;xZHAR;xRAE;xSAN;xTAR;xUN;xPHAR;xKHAR;xGHAN;xQAR;xSHIN;xCHIN;yAN;xJIL;
    xCIL;yHAR;xXAN;xJHAN;xHAE;yE;yIE;xWE;xHAR;yOE;xFI;xYN;xELIFI;xTURNED GAN;xAIN;1CBD=yEN;
    xHARD SIGN;xLABIAL SIGN;0SUNDANESE PUNCTUATION BINDU SURYA;sPANGLONG;tURNAMA;sCAKRA;
    sLEU SATANGA;sKA SATANGA;sDA SATANGA;sBA SATANGA;1CD0=0VEDIC TONE KARSHANA;bSHARA;bPRENKHA;
    6SIGN NIHSHVASA;bYAJURVEDIC MIDLINE SVARITA;6TONE YAJURVEDIC AGGRAVATED INDEPENDENT SVARITA;
    mINDEPENDENT SVARITA;mKATHAKA INDEPENDENT SVARITA;bCANDRA BELOW;
    bYAJURVEDIC KATHAKA INDEPENDENT SVARITA SCHROEDER;bDOUBLE SVARITA;bTRIPLE SVARITA;
    bKATHAKA ANUDATTA;bDOT BELOW;bTWO DOTS BELOW;cHREE DOTS BELOW;
    bRIGVEDIC KASHMIRI INDEPENDENT SVARITA;bATHARVAVEDIC INDEPENDENT SVARITA;
    6SIGN VISARGA SVARITA;jUDATTA;bREVERSED VISARGA UDATTA;bVISARGA ANUDATTA;
    bREVERSED VISARGA ANUDATTA;bVISARGA UDATTA WITH TAIL;jANUDATTA WITH TAIL;
    bANUSVARA ANTARGOMUKHA;kBAHIRGOMUKHA;kVAMAGOMUKHA;v WITH TAIL;bTIRYAK;
    bHEXIFORM LONG ANUSVARA;bLONG ANUSVARA;bRTHANG LONG ANUSVARA;bANUSVARA UBHAYATO MUKHA;
    cRDHAVISARGA;bROTATED ARDHAVISARGA;6TONE CANDRA ABOVE;6SIGN JIHVAMULIYA;bUPADHMANIYA;
    bATIKRAMA;6TONE RING ABOVE;bDOUBLE RING ABOVE;6SIGN DOUBLE ANUSVARA ANTARGOMUKHA;
    1D00=0LATIN LETTER SMALL CAPITAL A;sE;6SMALL LETTER TURNED AE;
    6LETTER SMALL CAPITAL BARRED B;rC;rD;rETH;s;6SMALL LETTER TURNED OPEN E;qI;
    6LETTER SMALL CAPITAL J;rK;rL WITH STROKE;rM;rREVERSED N;rO;sPEN O;6SMALL LETTER SIDEWAYS O;
    tPEN O;t WITH STROKE;jTURNED OE;6LETTER SMALL CAPITAL OU;6SMALL LETTER TOP HALF O;
    jBOTTOM HALF O;6LETTER SMALL CAPITAL P;rREVERSED R;rTURNED R;s;rU;6SMALL LETTER SIDEWAYS U;
    sDIAERESIZED U;sTURNED M;6LETTER SMALL CAPITAL V;rW;rZ;rEZH;dVOICED LARYNGEAL SPIRANT;dAIN;
    0GREEK LETTER SMALL CAPITAL GAMMA;rLAMDA;rPI;rRHO;rPSI;0CYRILLIC LETTER SMALL CAPITAL EL;
    0MODIFIER LETTER CAPITAL A;pE;oB;pARRED B;oD;oE;oREVERSED E;oG;oH;oI;oJ;oK;oL;oM;oN;
    oREVERSED N;oO;pU;oP;oR;oT;oU;oW;gSMALL A;mTURNED A;mALPHA;mTURNED AE;mB;mD;mE;mSCHWA;
    mOPEN E;mTURNED OPEN E;mG;mTURNED I;mK;mM;mENG;mO;nPEN O;mTOP HALF O;mBOTTOM HALF O;mP;mT;
    mU;mSIDEWAYS U;mTURNED M;mV;mAIN;mBETA;mGREEK GAMMA;mDELTA;mGREEK PHI;mCHI;
    0LATIN SUBSCRIPT SMALL LETTER I;tR;tU;tV;0GREEK SUBSCRIPT SMALL LETTER BETA;tGAMMA;tRHO;
    tPHI;tCHI;0LATIN SMALL LETTER UE;jB WITH MIDDLE TILDE;jD WITH MIDDLE TILDE;
    jF WITH MIDDLE TILDE;jM WITH MIDDLE TILDE;jN WITH MIDDLE TILDE;jP WITH MIDDLE TILDE;
    jR WITH MIDDLE TILDE;qFISHHOOK AND MIDDLE TILDE;jS WITH MIDDLE TILDE;jT WITH MIDDLE TILDE;
    jZ WITH MIDDLE TILDE;jTURNED G;0MODIFIER LETTER CYRILLIC EN;0LATIN SMALL LETTER INSULAR G;
    jTH WITH STRIKETHROUGH;cCAPITAL LETTER I WITH STROKE;cLETTER IOTA WITH STROKE;
    jP WITH STROKE;cCAPITAL LETTER U WITH STROKE;cLETTER UPSILON WITH STROKE;
    jB WITH PALATAL HOOK;jD WITH PALATAL HOOK;jF WITH PALATAL HOOK;jG WITH PALATAL HOOK;
    jK WITH PALATAL HOOK;jL WITH PALATAL HOOK;jM WITH PALATAL HOOK;jN WITH PALATAL HOOK;
    jP WITH PALATAL HOOK;jR WITH PALATAL HOOK;jS WITH PALATAL HOOK;jESH WITH PALATAL HOOK;
    jV WITH PALATAL HOOK;jX WITH PALATAL HOOK;jZ WITH PALATAL HOOK;jA WITH RETROFLEX HOOK;
    kLPHA WITH RETROFLEX HOOK;jD WITH HOOK AND TAIL;jE WITH RETROFLEX HOOK;
    jOPEN E WITH RETROFLEX HOOK;jREVERSED OPEN E WITH RETROFLEX HOOK;jSCHWA WITH RETROFLEX HOOK;
    jI WITH RETROFLEX HOOK;jOPEN O WITH RETROFLEX HOOK;jESH WITH RETROFLEX HOOK;
    jU WITH RETROFLEX HOOK;jEZH WITH RETROFLEX HOOK;0MODIFIER LETTER SMALL TURNED ALPHA;mC;
    n WITH CURL;mETH;mREVERSED OPEN E;mF;mDOTLESS J WITH STROKE;mSCRIPT G;mTURNED H;
    mI WITH STROKE;nOTA;mCAPITAL I;v WITH STROKE;mJ WITH CROSSED-TAIL;mL WITH RETROFLEX HOOK;
    tPALATAL HOOK;mCAPITAL L;mM WITH HOOK;mTURNED M WITH LONG LEG;mN WITH LEFT HOOK;
    tRETROFLEX HOOK;mCAPITAL N;mBARRED O;mPHI;mS WITH HOOK;mESH;mT WITH PALATAL HOOK;mU BAR;
    nPSILON;mCAPITAL U;mV WITH HOOK;mTURNED V;mZ;n WITH RETROFLEX HOOK;tCURL;mEZH;mTHETA;
    0COMBINING DOTTED GRAVE ACCENT;hACUTE ACCENT;aSNAKE BELOW;bUSPENSION MARK;aMACRON-ACUTE;
    aGRAVE-MACRON;aMACRON-GRAVE;aACUTE-MACRON;aGRAVE-ACUTE-GRAVE;aACUTE-GRAVE-ACUTE;
    aLATIN SMALL LETTER R BELOW;aBREVE-MACRON;aMACRON-BREVE;aDOUBLE CIRCUMFLEX ABOVE;
    aOGONEK ABOVE;aZIGZAG BELOW;aIS BELOW;aUR ABOVE;bS ABOVE;
    aLATIN SMALL LETTER FLATTENED OPEN A ABOVE;tAE;uO;uV;tC CEDILLA;tINSULAR D;tETH;tG;
    gLETTER SMALL CAPITAL G;gSMALL LETTER K;tL;gLETTER SMALL CAPITAL L;BM;gSMALL LETTER N;
    gLETTER SMALL CAPITAL N;BR;gSMALL LETTER R ROTUNDA;tS;tLONG S;tZ;tALPHA;tB;uETA;tSCHWA;tF;
    tL WITH DOUBLE MIDDLE TILDE;tO WITH LIGHT CENTRALIZATION STROKE;tP;tESH;
    tU WITH LIGHT CENTRALIZATION STROKE;tW;tA WITH DIAERESIS;tO WITH DIAERESIS;
    tU WITH DIAERESIS;aUP TACK ABOVE;aKAVYKA ABOVE RIGHT;nLEFT;aDOT ABOVE LEFT;
    aWIDE INVERTED BRIDGE BELOW;aDOT BELOW LEFT;bELETION MARK;bOUBLE INVERTED BREVE BELOW;
    aALMOST EQUAL TO BELOW;aLEFT ARROWHEAD ABOVE;aRIGHT ARROWHEAD AND DOWN ARROWHEAD BELOW;
    0LATIN CAPITAL LETTER A WITH RING BELOW;6SMALL LETTER A WITH RING BELOW;
    6CAPITAL LETTER B WITH DOT ABOVE;6SMALL LETTER B WITH DOT ABOVE;
    6CAPITAL LETTER B WITH DOT BELOW;6SMALL LETTER B WITH DOT BELOW;
    6CAPITAL LETTER B WITH LINE BELOW;6SMALL LETTER B WITH LINE BELOW;
    6CAPITAL LETTER C WITH CEDILLA AND ACUTE;6SMALL LETTER C WITH CEDILLA AND ACUTE;
    6CAPITAL LETTER D WITH DOT ABOVE;6SMALL LETTER D WITH DOT ABOVE;
    6CAPITAL LETTER D WITH DOT BELOW;6SMALL LETTER D WITH DOT BELOW;
    6CAPITAL LETTER D WITH LINE BELOW;6SMALL LETTER D WITH LINE BELOW;
    6CAPITAL LETTER D WITH CEDILLA;6SMALL LETTER D WITH CEDILLA;
    6CAPITAL LETTER D WITH CIRCUMFLEX BELOW;6SMALL LETTER D WITH CIRCUMFLEX BELOW;
    6CAPITAL LETTER E WITH MACRON AND GRAVE;6SMALL LETTER E WITH MACRON AND GRAVE;
    6CAPITAL LETTER E WITH MACRON AND ACUTE;6SMALL LETTER E WITH MACRON AND ACUTE;
    6CAPITAL LETTER E WITH CIRCUMFLEX BELOW;6SMALL LETTER E WITH CIRCUMFLEX BELOW;
    6CAPITAL LETTER E WITH TILDE BELOW;6SMALL LETTER E WITH TILDE BELOW;
    6CAPITAL LETTER E WITH CEDILLA AND BREVE;6SMALL LETTER E WITH CEDILLA AND BREVE;
    6CAPITAL LETTER F WITH DOT ABOVE;6SMALL LETTER F WITH DOT ABOVE;
    6CAPITAL LETTER G WITH MACRON;6SMALL LETTER G WITH MACRON;6CAPITAL LETTER H WITH DOT ABOVE;
    6SMALL LETTER H WITH DOT ABOVE;6CAPITAL LETTER H WITH DOT BELOW;
    6SMALL LETTER H WITH DOT BELOW;6CAPITAL LETTER H WITH DIAERESIS;
    6SMALL LETTER H WITH DIAERESIS;6CAPITAL LETTER H WITH CEDILLA;6SMALL LETTER H WITH CEDILLA;
    6CAPITAL LETTER H WITH BREVE BELOW;6SMALL LETTER H WITH BREVE BELOW;
    6CAPITAL LETTER I WITH TILDE BELOW;6SMALL LETTER I WITH TILDE BELOW;
    6CAPITAL LETTER I WITH DIAERESIS AND ACUTE;6SMALL LETTER I WITH DIAERESIS AND ACUTE;
    6CAPITAL LETTER K WITH ACUTE;6SMALL LETTER K WITH ACUTE;6CAPITAL LETTER K WITH DOT BELOW;
    6SMALL LETTER K WITH DOT BELOW;6CAPITAL LETTER K WITH LINE BELOW;
    6SMALL LETTER K WITH LINE BELOW;6CAPITAL LETTER L WITH DOT BELOW;
    6SMALL LETTER L WITH DOT BELOW;6CAPITAL LETTER L WITH DOT BELOW AND MACRON;
    6SMALL LETTER L WITH DOT BELOW AND MACRON;6CAPITAL LETTER L WITH LINE BELOW;
    6SMALL LETTER L WITH LINE BELOW;6CAPITAL LETTER L WITH CIRCUMFLEX BELOW;
    6SMALL LETTER L WITH CIRCUMFLEX BELOW;6CAPITAL LETTER M WITH ACUTE;
    6SMALL LETTER M WITH ACUTE;6CAPITAL LETTER M WITH DOT ABOVE;6SMALL LETTER M WITH DOT ABOVE;
    6CAPITAL LETTER M WITH DOT BELOW;6SMALL LETTER M WITH DOT BELOW;
    6CAPITAL LETTER N WITH DOT ABOVE;6SMALL LETTER N WITH DOT ABOVE;
    6CAPITAL LETTER N WITH DOT BELOW;6SMALL LETTER N WITH DOT BELOW;
    6CAPITAL LETTER N WITH LINE BELOW;6SMALL LETTER N WITH LINE BELOW;
    6CAPITAL LETTER N WITH CIRCUMFLEX BELOW;6SMALL LETTER N WITH CIRCUMFLEX BELOW;
    6CAPITAL LETTER O WITH TILDE AND ACUTE;6SMALL LETTER O WITH TILDE AND ACUTE;
    6CAPITAL LETTER O WITH TILDE AND DIAERESIS;6SMALL LETTER O WITH TILDE AND DIAERESIS;
    6CAPITAL LETTER O WITH MACRON AND GRAVE;6SMALL LETTER O WITH MACRON AND GRAVE;
    6CAPITAL LETTER O WITH MACRON AND ACUTE;6SMALL LETTER O WITH MACRON AND ACUTE;
    6CAPITAL LETTER P WITH ACUTE;6SMALL LETTER P WITH ACUTE;6CAPITAL LETTER P WITH DOT ABOVE;
    6SMALL LETTER P WITH DOT ABOVE;6CAPITAL LETTER R WITH DOT ABOVE;
    6SMALL LETTER R WITH DOT ABOVE;6CAPITAL LETTER R WITH DOT BELOW;
    6SMALL LETTER R WITH DOT BELOW;6CAPITAL LETTER R WITH DOT BELOW AND MACRON;
    6SMALL LETTER R WITH DOT BELOW AND MACRON;6CAPITAL LETTER R WITH LINE BELOW;
    6SMALL LETTER R WITH LINE BELOW;6CAPITAL LETTER S WITH DOT ABOVE;
    6SMALL LETTER S WITH DOT ABOVE;6CAPITAL LETTER S WITH DOT BELOW;
    6SMALL LETTER S WITH DOT BELOW;6CAPITAL LETTER S WITH ACUTE AND DOT ABOVE;
    6SMALL LETTER S WITH ACUTE AND DOT ABOVE;6CAPITAL LETTER S WITH CARON AND DOT ABOVE;
    6SMALL LETTER S WITH CARON AND DOT ABOVE;6CAPITAL LETTER S WITH DOT BELOW AND DOT ABOVE;
    6SMALL LETTER S WITH DOT BELOW AND DOT ABOVE;6CAPITAL LETTER T WITH DOT ABOVE;
    6SMALL LETTER T WITH DOT ABOVE;6CAPITAL LETTER T WITH DOT BELOW;
    6SMALL LETTER T WITH DOT BELOW;6CAPITAL LETTER T WITH LINE BELOW;
    6SMALL LETTER T WITH LINE BELOW;6CAPITAL LETTER T WITH CIRCUMFLEX BELOW;
    6SMALL LETTER T WITH CIRCUMFLEX BELOW;6CAPITAL LETTER U WITH DIAERESIS BELOW;
    6SMALL LETTER U WITH DIAERESIS BELOW;6CAPITAL LETTER U WITH TILDE BELOW;
    6SMALL LETTER U WITH TILDE BELOW;6CAPITAL LETTER U WITH CIRCUMFLEX BELOW;
    6SMALL LETTER U WITH CIRCUMFLEX BELOW;6CAPITAL LETTER U WITH TILDE AND ACUTE;
    6SMALL LETTER U WITH TILDE AND ACUTE;6CAPITAL LETTER U WITH MACRON AND DIAERESIS;
    6SMALL LETTER U WITH MACRON AND DIAERESIS;6CAPITAL LETTER V WITH TILDE;
    6SMALL LETTER V WITH TILDE;6CAPITAL LETTER V WITH DOT BELOW;6SMALL LETTER V WITH DOT BELOW;
    6CAPITAL LETTER W WITH GRAVE;6SMALL LETTER W WITH GRAVE;6CAPITAL LETTER W WITH ACUTE;
    6SMALL LETTER W WITH ACUTE;6CAPITAL LETTER W WITH DIAERESIS;6SMALL LETTER W WITH DIAERESIS;
    6CAPITAL LETTER W WITH DOT ABOVE;6SMALL LETTER W WITH DOT ABOVE;
    6CAPITAL LETTER W WITH DOT BELOW;6SMALL LETTER W WITH DOT BELOW;
    6CAPITAL LETTER X WITH DOT ABOVE;6SMALL LETTER X WITH DOT ABOVE;
    6CAPITAL LETTER X WITH DIAERESIS;6SMALL LETTER X WITH DIAERESIS;
    6CAPITAL LETTER Y WITH DOT ABOVE;6SMALL LETTER Y WITH DOT ABOVE;
    6CAPITAL LETTER Z WITH CIRCUMFLEX;6SMALL LETTER Z WITH CIRCUMFLEX;
    6CAPITAL LETTER Z WITH DOT BELOW;6SMALL LETTER Z WITH DOT BELOW;
    6CAPITAL LETTER Z WITH LINE BELOW;6SMALL LETTER Z WITH LINE BELOW;jH WITH LINE BELOW;
    jT WITH DIAERESIS;jW WITH RING ABOVE;jY WITH RING ABOVE;jA WITH RIGHT HALF RING;
    jLONG S WITH DOT ABOVE;wIAGONAL STROKE;vHIGH STROKE;6CAPITAL LETTER SHARP S;
    6SMALL LETTER DELTA;6CAPITAL LETTER A WITH DOT BELOW;6SMALL LETTER A WITH DOT BELOW;
    6CAPITAL LETTER A WITH HOOK ABOVE;6SMALL LETTER A WITH HOOK ABOVE;
    6CAPITAL LETTER A WITH CIRCUMFLEX AND ACUTE;6SMALL LETTER A WITH CIRCUMFLEX AND ACUTE;
    6CAPITAL LETTER A WITH CIRCUMFLEX AND GRAVE;6SMALL LETTER A WITH CIRCUMFLEX AND GRAVE;
    6CAPITAL LETTER A WITH CIRCUMFLEX AND HOOK ABOVE;
    6SMALL LETTER A WITH CIRCUMFLEX AND HOOK ABOVE;6CAPITAL LETTER A WITH CIRCUMFLEX AND TILDE;
    6SMALL LETTER A WITH CIRCUMFLEX AND TILDE;6CAPITAL LETTER A WITH CIRCUMFLEX AND DOT BELOW;
    6SMALL LETTER A WITH CIRCUMFLEX AND DOT BELOW;6CAPITAL LETTER A WITH BREVE AND ACUTE;
    6SMALL LETTER A WITH BREVE AND ACUTE;6CAPITAL LETTER A WITH BREVE AND GRAVE;
    6SMALL LETTER A WITH BREVE AND GRAVE;6CAPITAL LETTER A WITH BREVE AND HOOK ABOVE;
    6SMALL LETTER A WITH BREVE AND HOOK ABOVE;6CAPITAL LETTER A WITH BREVE AND TILDE;
    6SMALL LETTER A WITH BREVE AND TILDE;6CAPITAL LETTER A WITH BREVE AND DOT BELOW;
    6SMALL LETTER A WITH BREVE AND DOT BELOW;6CAPITAL LETTER E WITH DOT BELOW;
    6SMALL LETTER E WITH DOT BELOW;6CAPITAL LETTER E WITH HOOK ABOVE;
    6SMALL LETTER E WITH HOOK ABOVE;6CAPITAL LETTER E WITH TILDE;6SMALL LETTER E WITH TILDE;
    6CAPITAL LETTER E WITH CIRCUMFLEX AND ACUTE;6SMALL LETTER E WITH CIRCUMFLEX AND ACUTE;
    6CAPITAL LETTER E WITH CIRCUMFLEX AND GRAVE;6SMALL LETTER E WITH CIRCUMFLEX AND GRAVE;
    6CAPITAL LETTER E WITH CIRCUMFLEX AND HOOK ABOVE;
    6SMALL LETTER E WITH CIRCUMFLEX AND HOOK ABOVE;6CAPITAL LETTER E WITH CIRCUMFLEX AND TILDE;
    6SMALL LETTER E WITH CIRCUMFLEX AND TILDE;6CAPITAL LETTER E WITH CIRCUMFLEX AND DOT BELOW;
    6SMALL LETTER E WITH CIRCUMFLEX AND DOT BELOW;6CAPITAL LETTER I WITH HOOK ABOVE;
    6SMALL LETTER I WITH HOOK ABOVE;6CAPITAL LETTER I WITH DOT BELOW;
    6SMALL LETTER I WITH DOT BELOW;6CAPITAL LETTER O WITH DOT BELOW;
    6SMALL LETTER O WITH DOT BELOW;6CAPITAL LETTER O WITH HOOK ABOVE;
    6SMALL LETTER O WITH HOOK ABOVE;6CAPITAL LETTER O WITH CIRCUMFLEX AND ACUTE;
    6SMALL LETTER O WITH CIRCUMFLEX AND ACUTE;6CAPITAL LETTER O WITH CIRCUMFLEX AND GRAVE;
    6SMALL LETTER O WITH CIRCUMFLEX AND GRAVE;6CAPITAL LETTER O WITH CIRCUMFLEX AND HOOK ABOVE;
    6SMALL LETTER O WITH CIRCUMFLEX AND HOOK ABOVE;6CAPITAL LETTER O WITH CIRCUMFLEX AND TILDE;
    6SMALL LETTER O WITH CIRCUMFLEX AND TILDE;6CAPITAL LETTER O WITH CIRCUMFLEX AND DOT BELOW;
    6SMALL LETTER O WITH CIRCUMFLEX AND DOT BELOW;6CAPITAL LETTER O WITH HORN AND ACUTE;
    6SMALL LETTER O WITH HORN AND ACUTE;6CAPITAL LETTER O WITH HORN AND GRAVE;
    6SMALL LETTER O WITH HORN AND GRAVE;6CAPITAL LETTER O WITH HORN AND HOOK ABOVE;
    6SMALL LETTER O WITH HORN AND HOOK ABOVE;6CAPITAL LETTER O WITH HORN AND TILDE;
    6SMALL LETTER O WITH HORN AND TILDE;6CAPITAL LETTER O WITH HORN AND DOT BELOW;
    6SMALL LETTER O WITH HORN AND DOT BELOW;6CAPITAL LETTER U WITH DOT BELOW;
    6SMALL LETTER U WITH DOT BELOW;6CAPITAL LETTER U WITH HOOK ABOVE;
    6SMALL LETTER U WITH HOOK ABOVE;6CAPITAL LETTER U WITH HORN AND ACUTE;
    6SMALL LETTER U WITH HORN AND ACUTE;6CAPITAL LETTER U WITH HORN AND GRAVE;
    6SMALL LETTER U WITH HORN AND GRAVE;6CAPITAL LETTER U WITH HORN AND HOOK ABOVE;
    6SMALL LETTER U WITH HORN AND HOOK ABOVE;6CAPITAL LETTER U WITH HORN AND TILDE;
    6SMALL LETTER U WITH HORN AND TILDE;6CAPITAL LETTER U WITH HORN AND DOT BELOW;
    6SMALL LETTER U WITH HORN AND DOT BELOW;6CAPITAL LETTER Y WITH GRAVE;
    6SMALL LETTER Y WITH GRAVE;6CAPITAL LETTER Y WITH DOT BELOW;6SMALL LETTER Y WITH DOT BELOW;
    6CAPITAL LETTER Y WITH HOOK ABOVE;6SMALL LETTER Y WITH HOOK ABOVE;
    6CAPITAL LETTER Y WITH TILDE;6SMALL LETTER Y WITH TILDE;6CAPITAL LETTER MIDDLE-WELSH LL;
    6SMALL LETTER MIDDLE-WELSH LL;6CAPITAL LETTER MIDDLE-WELSH V;6SMALL LETTER MIDDLE-WELSH V;
    6CAPITAL LETTER Y WITH LOOP;6SMALL LETTER Y WITH LOOP;0GREEK SMALL LETTER ALPHA WITH PSILI;
    uDASIA;uPSILI AND VARIA;uDASIA AND VARIA;uPSILI AND OXIA;uDASIA AND OXIA;
    uPSILI AND PERISPOMENI;uDASIA AND PERISPOMENI;6CAPITAL LETTER ALPHA WITH PSILI;wDASIA;
    wPSILI AND VARIA;wDASIA AND VARIA;wPSILI AND OXIA;wDASIA AND OXIA;wPSILI AND PERISPOMENI;
    wDASIA AND PERISPOMENI;6SMALL LETTER EPSILON WITH PSILI;wDASIA;wPSILI AND VARIA;
    wDASIA AND VARIA;wPSILI AND OXIA;wDASIA AND OXIA;1F18=6CAPITAL LETTER EPSILON WITH PSILI;
    yDASIA;yPSILI AND VARIA;yDASIA AND VARIA;yPSILI AND OXIA;yDASIA AND OXIA;
    1F20=6SMALL LETTER ETA WITH PSILI;sDASIA;sPSILI AND VARIA;sDASIA AND VARIA;sPSILI AND OXIA;
    sDASIA AND OXIA;sPSILI AND PERISPOMENI;sDASIA AND PERISPOMENI;
    6CAPITAL LETTER ETA WITH PSILI;uDASIA;uPSILI AND VARIA;uDASIA AND VARIA;uPSILI AND OXIA;
    uDASIA AND OXIA;uPSILI AND PERISPOMENI;uDASIA AND PERISPOMENI;6SMALL LETTER IOTA WITH PSILI;
    tDASIA;tPSILI AND VARIA;tDASIA AND VARIA;tPSILI AND OXIA;tDASIA AND OXIA;
    tPSILI AND PERISPOMENI;tDASIA AND PERISPOMENI;6CAPITAL LETTER IOTA WITH PSILI;vDASIA;
    vPSILI AND VARIA;vDASIA AND VARIA;vPSILI AND OXIA;vDASIA AND OXIA;vPSILI AND PERISPOMENI;
    vDASIA AND PERISPOMENI;6SMALL LETTER OMICRON WITH PSILI;wDASIA;wPSILI AND VARIA;
    wDASIA AND VARIA;wPSILI AND OXIA;wDASIA AND OXIA;1F48=6CAPITAL LETTER OMICRON WITH PSILI;
    yDASIA;yPSILI AND VARIA;yDASIA AND VARIA;yPSILI AND OXIA;yDASIA AND OXIA;
    1F50=6SMALL LETTER UPSILON WITH PSILI;wDASIA;wPSILI AND VARIA;wDASIA AND VARIA;
    wPSILI AND OXIA;wDASIA AND OXIA;wPSILI AND PERISPOMENI;wDASIA AND PERISPOMENI;
    1F59=6CAPITAL LETTER UPSILON WITH DASIA;1F5B=D AND VARIA;1F5D=IOXIA;1F5F=IPERISPOMENI;
    6SMALL LETTER OMEGA WITH PSILI;uDASIA;uPSILI AND VARIA;uDASIA AND VARIA;uPSILI AND OXIA;
    uDASIA AND OXIA;uPSILI AND PERISPOMENI;uDASIA AND PERISPOMENI;
    6CAPITAL LETTER OMEGA WITH PSILI;wDASIA;wPSILI AND VARIA;wDASIA AND VARIA;wPSILI AND OXIA;
    wDASIA AND OXIA;wPSILI AND PERISPOMENI;wDASIA AND PERISPOMENI;
    6SMALL LETTER ALPHA WITH VARIA;uOXIA;jEPSILON WITH VARIA;wOXIA;kTA WITH VARIA;sOXIA;
    jIOTA WITH VARIA;tOXIA;jOMICRON WITH VARIA;wOXIA;jUPSILON WITH VARIA;wOXIA;
    jOMEGA WITH VARIA;uOXIA;1F80=jALPHA WITH PSILI AND YPOGEGRAMMENI;uDASIA AND YPOGEGRAMMENI;
    uPSILI AND VARIA AND YPOGEGRAMMENI;uDASIA AND VARIA AND YPOGEGRAMMENI;
    uPSILI AND OXIA AND YPOGEGRAMMENI;uDASIA AND OXIA AND YPOGEGRAMMENI;
    uPSILI AND PERISPOMENI AND YPOGEGRAMMENI;uDASIA AND PERISPOMENI AND YPOGEGRAMMENI;
    6CAPITAL LETTER ALPHA WITH PSILI AND PROSGEGRAMMENI;wDASIA AND PROSGEGRAMMENI;
    wPSILI AND VARIA AND PROSGEGRAMMENI;wDASIA AND VARIA AND PROSGEGRAMMENI;
    wPSILI AND OXIA AND PROSGEGRAMMENI;wDASIA AND OXIA AND PROSGEGRAMMENI;
    wPSILI AND PERISPOMENI AND PROSGEGRAMMENI;wDASIA AND PERISPOMENI AND PROSGEGRAMMENI;
    6SMALL LETTER ETA WITH PSILI AND YPOGEGRAMMENI;sDASIA AND YPOGEGRAMMENI;
    sPSILI AND VARIA AND YPOGEGRAMMENI;sDASIA AND VARIA AND YPOGEGRAMMENI;
    sPSILI AND OXIA AND YPOGEGRAMMENI;sDASIA AND OXIA AND YPOGEGRAMMENI;
    sPSILI AND PERISPOMENI AND YPOGEGRAMMENI;sDASIA AND PERISPOMENI AND YPOGEGRAMMENI;
    6CAPITAL LETTER ETA WITH PSILI AND PROSGEGRAMMENI;uDASIA AND PROSGEGRAMMENI;
    uPSILI AND VARIA AND PROSGEGRAMMENI;uDASIA AND VARIA AND PROSGEGRAMMENI;
    uPSILI AND OXIA AND PROSGEGRAMMENI;uDASIA AND OXIA AND PROSGEGRAMMENI;
    uPSILI AND PERISPOMENI AND PROSGEGRAMMENI;uDASIA AND PERISPOMENI AND PROSGEGRAMMENI;
    6SMALL LETTER OMEGA WITH PSILI AND YPOGEGRAMMENI;uDASIA AND YPOGEGRAMMENI;
    uPSILI AND VARIA AND YPOGEGRAMMENI;uDASIA AND VARIA AND YPOGEGRAMMENI;
    uPSILI AND OXIA AND YPOGEGRAMMENI;uDASIA AND OXIA AND YPOGEGRAMMENI;
    uPSILI AND PERISPOMENI AND YPOGEGRAMMENI;uDASIA AND PERISPOMENI AND YPOGEGRAMMENI;
    6CAPITAL LETTER OMEGA WITH PSILI AND PROSGEGRAMMENI;wDASIA AND PROSGEGRAMMENI;
    wPSILI AND VARIA AND PROSGEGRAMMENI;wDASIA AND VARIA AND PROSGEGRAMMENI;
    wPSILI AND OXIA AND PROSGEGRAMMENI;wDASIA AND OXIA AND PROSGEGRAMMENI;
    wPSILI AND PERISPOMENI AND PROSGEGRAMMENI;wDASIA AND PERISPOMENI AND PROSGEGRAMMENI;
    6SMALL LETTER ALPHA WITH VRACHY;uMACRON;uVARIA AND YPOGEGRAMMENI;uYPOGEGRAMMENI;
    uOXIA AND YPOGEGRAMMENI;1FB6=uPERISPOMENI;F AND YPOGEGRAMMENI;
    6CAPITAL LETTER ALPHA WITH VRACHY;wMACRON;wVARIA;wOXIA;wPROSGEGRAMMENI;6KORONIS;
    6PROSGEGRAMMENI;7SILI;7ERISPOMENI;6DIALYTIKA AND PERISPOMENI;
    6SMALL LETTER ETA WITH VARIA AND YPOGEGRAMMENI;sYPOGEGRAMMENI;sOXIA AND YPOGEGRAMMENI;
    1FC6=sPERISPOMENI;D AND YPOGEGRAMMENI;6CAPITAL LETTER EPSILON WITH VARIA;yOXIA;
    mTA WITH VARIA;uOXIA;uPROSGEGRAMMENI;6PSILI AND VARIA;gOXIA;gPERISPOMENI;
    6SMALL LETTER IOTA WITH VRACHY;tMACRON;tDIALYTIKA AND VARIA;HOXIA;1FD6=tPERISPOMENI;
    tDIALYTIKA AND PERISPOMENI;6CAPITAL LETTER IOTA WITH VRACHY;vMACRON;vVARIA;vOXIA;
    1FDD=6DASIA AND VARIA;gOXIA;gPERISPOMENI;6SMALL LETTER UPSILON WITH VRACHY;wMACRON;
    wDIALYTIKA AND VARIA;KOXIA;jRHO WITH PSILI;sDASIA;jUPSILON WITH PERISPOMENI;
    wDIALYTIKA AND PERISPOMENI;6CAPITAL LETTER UPSILON WITH VRACHY;yMACRON;yVARIA;yOXIA;
    lRHO WITH DASIA;6DIALYTIKA AND VARIA;kOXIA;6VARIA;
    1FF2=6SMALL LETTER OMEGA WITH VARIA AND YPOGEGRAMMENI;uYPOGEGRAMMENI;
    uOXIA AND YPOGEGRAMMENI;1FF6=uPERISPOMENI;F AND YPOGEGRAMMENI;
    6CAPITAL LETTER OMICRON WITH VARIA;yOXIA;nEGA WITH VARIA;wOXIA;wPROSGEGRAMMENI;6OXIA;6DASIA;
    2000=0EN QUAD;1M QUAD;1N SPACE;1M SPACE;0THREE-PER-EM SPACE;0FOUR-PER-EM SPACE;
    0SIX-PER-EM SPACE;0FIGURE SPACE;0PUNCTUATION SPACE;0THIN SPACE;0HAIR SPACE;
    0ZERO WIDTH SPACE;bNON-JOINER;bJOINER;0LEFT-TO-RIGHT MARK;0RIGHT-TO-LEFT MARK;0HYPHEN;
    0NON-BREAKING HYPHEN;0FIGURE DASH;0EN DASH;1M DASH;0HORIZONTAL BAR;0DOUBLE VERTICAL LINE;
    7LOW LINE;0LEFT SINGLE QUOTATION MARK;0RIGHT SINGLE QUOTATION MARK;
    0SINGLE LOW-9 QUOTATION MARK;7HIGH-REVERSED-9 QUOTATION MARK;0LEFT DOUBLE QUOTATION MARK;
    0RIGHT DOUBLE QUOTATION MARK;0DOUBLE LOW-9 QUOTATION MARK;7HIGH-REVERSED-9 QUOTATION MARK;
    1AGGER;1OUBLE DAGGER;0BULLET;0TRIANGULAR BULLET;0ONE DOT LEADER;0TWO DOT LEADER;
    0HORIZONTAL ELLIPSIS;1YPHENATION POINT;0LINE SEPARATOR;0PARAGRAPH SEPARATOR;
    0LEFT-TO-RIGHT EMBEDDING;0RIGHT-TO-LEFT EMBEDDING;0POP DIRECTIONAL FORMATTING;
    0LEFT-TO-RIGHT OVERRIDE;0RIGHT-TO-LEFT OVERRIDE;0NARROW NO-BREAK SPACE;0PER MILLE SIGN;
    4TEN THOUSAND SIGN;1RIME;0DOUBLE PRIME;0TRIPLE PRIME;0REVERSED PRIME;9DOUBLE PRIME;
    9TRIPLE PRIME;0CARET;0SINGLE LEFT-POINTING ANGLE QUOTATION MARK;
    7RIGHT-POINTING ANGLE QUOTATION MARK;0REFERENCE MARK;0DOUBLE EXCLAMATION MARK;0INTERROBANG;
    0OVERLINE;0UNDERTIE;0CHARACTER TIE;1ARET INSERTION POINT;0ASTERISM;0HYPHEN BULLET;
    0FRACTION SLASH;0LEFT SQUARE BRACKET WITH QUILL;0RIGHT SQUARE BRACKET WITH QUILL;
    0DOUBLE QUESTION MARK;0QUESTION EXCLAMATION MARK;0EXCLAMATION QUESTION MARK;
    0TIRONIAN SIGN ET;0REVERSED PILCROW SIGN;0BLACK LEFTWARDS BULLET;6RIGHTWARDS BULLET;
    0LOW ASTERISK;0REVERSED SEMICOLON;0CLOSE UP;0TWO ASTERISKS ALIGNED VERTICALLY;
    0COMMERCIAL MINUS SIGN;0SWUNG DASH;0INVERTED UNDERTIE;0FLOWER PUNCTUATION MARK;
    0THREE DOT PUNCTUATION;0QUADRUPLE PRIME;0FOUR DOT PUNCTUATION;1IVE DOT PUNCTUATION;
    0TWO DOT PUNCTUATION;0FOUR DOT MARK;0DOTTED CROSS;0TRICOLON;0VERTICAL FOUR DOTS;
    0MEDIUM MATHEMATICAL SPACE;0WORD JOINER;0FUNCTION APPLICATION;0INVISIBLE TIMES;aSEPARATOR;
    aPLUS;2066=0LEFT-TO-RIGHT ISOLATE;0RIGHT-TO-LEFT ISOLATE;0FIRST STRONG ISOLATE;
    0POP DIRECTIONAL ISOLATE;0INHIBIT SYMMETRIC SWAPPING;0ACTIVATE SYMMETRIC SWAPPING;
    0INHIBIT ARABIC FORM SHAPING;0ACTIVATE ARABIC FORM SHAPING;0NATIONAL DIGIT SHAPES;
    1OMINAL DIGIT SHAPES;0SUPERSCRIPT ZERO;cLATIN SMALL LETTER I;2074=cFOUR;dIVE;cSIX;dEVEN;
    cEIGHT;cNINE;cPLUS SIGN;cMINUS;cEQUALS SIGN;cLEFT PARENTHESIS;cRIGHT PARENTHESIS;
    cLATIN SMALL LETTER N;2BSCRIPT ZERO;aONE;aTWO;bHREE;aFOUR;bIVE;aSIX;bEVEN;aEIGHT;aNINE;
    aPLUS SIGN;aMINUS;aEQUALS SIGN;aLEFT PARENTHESIS;aRIGHT PARENTHESIS;
    2090=0LATIN SUBSCRIPT SMALL LETTER A;tE;tO;tX;tSCHWA;tH;tK;tL;tM;tN;tP;tS;tT;
    20A0=0EURO-CURRENCY SIGN;0COLON SIGN;1RUZEIRO SIGN;0FRENCH FRANC SIGN;0LIRA SIGN;0MILL SIGN;
    0NAIRA SIGN;0PESETA SIGN;0RUPEE SIGN;0WON SIGN;0NEW SHEQEL SIGN;0DONG SIGN;0EURO SIGN;
    0KIP SIGN;0TUGRIK SIGN;0DRACHMA SIGN;0GERMAN PENNY SIGN;0PESO SIGN;0GUARANI SIGN;
    0AUSTRAL SIGN;0HRYVNIA SIGN;0CEDI SIGN;0LIVRE TOURNOIS SIGN;0SPESMILO SIGN;0TENGE SIGN;
    0INDIAN RUPEE SIGN;0TURKISH LIRA SIGN;0NORDIC MARK SIGN;0MANAT SIGN;0RUBLE SIGN;0LARI SIGN;
    0BITCOIN SIGN;0SOM SIGN;20D0=0COMBINING LEFT HARPOON ABOVE;aRIGHT HARPOON ABOVE;
    aLONG VERTICAL LINE OVERLAY;aSHORT VERTICAL LINE OVERLAY;aANTICLOCKWISE ARROW ABOVE;
    aCLOCKWISE ARROW ABOVE;aLEFT ARROW ABOVE;aRIGHT ARROW ABOVE;cNG OVERLAY;
    aCLOCKWISE RING OVERLAY;aANTICLOCKWISE RING OVERLAY;aTHREE DOTS ABOVE;aFOUR DOTS ABOVE;
    aENCLOSING CIRCLE;kSQUARE;kDIAMOND;kCIRCLE BACKSLASH;aLEFT RIGHT ARROW ABOVE;
    aENCLOSING SCREEN;kKEYCAP;kUPWARD POINTING TRIANGLE;aREVERSE SOLIDUS OVERLAY;
    aDOUBLE VERTICAL STROKE OVERLAY;aANNUITY SYMBOL;aTRIPLE UNDERDOT;aWIDE BRIDGE ABOVE;
    aLEFTWARDS ARROW OVERLAY;bONG DOUBLE SOLIDUS OVERLAY;
    aRIGHTWARDS HARPOON WITH BARB DOWNWARDS;aLEFTWARDS HARPOON WITH BARB DOWNWARDS;
    e ARROW BELOW;aRIGHT ARROW BELOW;aASTERISK ABOVE;2100=0ACCOUNT OF;1DDRESSED TO THE SUBJECT;
    0DOUBLE-STRUCK CAPITAL C;1EGREE CELSIUS;0CENTRE LINE SYMBOL;1ARE OF;2DA UNA;0EULER CONSTANT;
    0SCRUPLE;0DEGREE FAHRENHEIT;0SCRIPT SMALL G;7CAPITAL H;0BLACK-LETTER CAPITAL H;
    0DOUBLE-STRUCK CAPITAL H;0PLANCK CONSTANT;f OVER TWO PI;0SCRIPT CAPITAL I;
    0BLACK-LETTER CAPITAL I;0SCRIPT CAPITAL L;7SMALL L;0L B BAR SYMBOL;0DOUBLE-STRUCK CAPITAL N;
    0NUMERO SIGN;0SOUND RECORDING COPYRIGHT;1CRIPT CAPITAL P;0DOUBLE-STRUCK CAPITAL P;mQ;
    0SCRIPT CAPITAL R;0BLACK-LETTER CAPITAL R;0DOUBLE-STRUCK CAPITAL R;0PRESCRIPTION TAKE;
    0RESPONSE;0SERVICE MARK;0TELEPHONE SIGN;1RADE MARK SIGN;0VERSICLE;0DOUBLE-STRUCK CAPITAL Z;
    0OUNCE SIGN;1HM SIGN;0INVERTED OHM SIGN;0BLACK-LETTER CAPITAL Z;
    0TURNED GREEK SMALL LETTER IOTA;0KELVIN SIGN;0ANGSTROM SIGN;0SCRIPT CAPITAL B;
    0BLACK-LETTER CAPITAL C;0ESTIMATED SYMBOL;0SCRIPT SMALL E;7CAPITAL E;fF;0TURNED CAPITAL F;
    0SCRIPT CAPITAL M;7SMALL O;0ALEF SYMBOL;0BET SYMBOL;0GIMEL SYMBOL;0DALET SYMBOL;
    0INFORMATION SOURCE;0ROTATED CAPITAL Q;0FACSIMILE SIGN;0DOUBLE-STRUCK SMALL PI;kGAMMA;
    eCAPITAL GAMMA;mPI;eN-ARY SUMMATION;0TURNED SANS-SERIF CAPITAL G;qL;
    0REVERSED SANS-SERIF CAPITAL L;0TURNED SANS-SERIF CAPITAL Y;0DOUBLE-STRUCK ITALIC CAPITAL D;
    lSMALL D;rE;rI;rJ;0PROPERTY LINE;0TURNED AMPERSAND;0PER SIGN;0AKTIESELSKAB;0TURNED SMALL F;
    0SYMBOL FOR SAMARITAN SOURCE;0VULGAR FRACTION ONE SEVENTH;kNINTH;kTENTH;lHIRD;gTWO THIRDS;
    gONE FIFTH;gTWO FIFTHS;hHREE FIFTHS;gFOUR FIFTHS;gONE SIXTH;gFIVE SIXTHS;gONE EIGHTH;
    gTHREE EIGHTHS;gFIVE EIGHTHS;gSEVEN EIGHTHS;0FRACTION NUMERATOR ONE;0ROMAN NUMERAL ONE;eTWO;
    fHREE;eFOUR;fIVE;eSIX;fEVEN;eEIGHT;eNINE;eTEN;eELEVEN;eTWELVE;eFIFTY;eONE HUNDRED;
    eFIVE HUNDRED;eONE THOUSAND;0SMALL ROMAN NUMERAL ONE;kTWO;lHREE;kFOUR;lIVE;kSIX;lEVEN;
    kEIGHT;kNINE;kTEN;kELEVEN;kTWELVE;kFIFTY;kONE HUNDRED;kFIVE HUNDRED;kONE THOUSAND;
    0ROMAN NUMERAL ONE THOUSAND C D;eFIVE THOUSAND;eTEN THOUSAND;eREVERSED ONE HUNDRED;
    0LATIN SMALL LETTER REVERSED C;0ROMAN NUMERAL SIX LATE FORM;eFIFTY EARLY FORM;kTHOUSAND;
    eONE HUNDRED THOUSAND;0VULGAR FRACTION ZERO THIRDS;0TURNED DIGIT TWO;eHREE;
    2190=0LEFTWARDS ARROW;0UPWARDS ARROW;0RIGHTWARDS ARROW;0DOWNWARDS ARROW;0LEFT RIGHT ARROW;
    0UP DOWN ARROW;0NORTH WEST ARROW;6EAST ARROW;0SOUTH EAST ARROW;6WEST ARROW;
    0LEFTWARDS ARROW WITH STROKE;0RIGHTWARDS ARROW WITH STROKE;0LEFTWARDS WAVE ARROW;
    0RIGHTWARDS WAVE ARROW;0LEFTWARDS TWO HEADED ARROW;0UPWARDS TWO HEADED ARROW;
    0RIGHTWARDS TWO HEADED ARROW;0DOWNWARDS TWO HEADED ARROW;0LEFTWARDS ARROW WITH TAIL;
    0RIGHTWARDS ARROW WITH TAIL;0LEFTWARDS ARROW FROM BAR;0UPWARDS ARROW FROM BAR;
    0RIGHTWARDS ARROW FROM BAR;0DOWNWARDS ARROW FROM BAR;0UP DOWN ARROW WITH BASE;
    0LEFTWARDS ARROW WITH HOOK;0RIGHTWARDS ARROW WITH HOOK;0LEFTWARDS ARROW WITH LOOP;
    0RIGHTWARDS ARROW WITH LOOP;0LEFT RIGHT WAVE ARROW;bARROW WITH STROKE;
    0DOWNWARDS ZIGZAG ARROW;0UPWARDS ARROW WITH TIP LEFTWARDS;nRIGHTWARDS;
    0DOWNWARDS ARROW WITH TIP LEFTWARDS;pRIGHTWARDS;0RIGHTWARDS ARROW WITH CORNER DOWNWARDS;
    0DOWNWARDS ARROW WITH CORNER LEFTWARDS;0ANTICLOCKWISE TOP SEMICIRCLE ARROW;
    0CLOCKWISE TOP SEMICIRCLE ARROW;0NORTH WEST ARROW TO LONG BAR;
    0LEFTWARDS ARROW TO BAR OVER RIGHTWARDS ARROW TO BAR;0ANTICLOCKWISE OPEN CIRCLE ARROW;
    0CLOCKWISE OPEN CIRCLE ARROW;0LEFTWARDS HARPOON WITH BARB UPWARDS;sDOWNWARDS;
    0UPWARDS HARPOON WITH BARB RIGHTWARDS;qLEFTWARDS;0RIGHTWARDS HARPOON WITH BARB UPWARDS;
    tDOWNWARDS;0DOWNWARDS HARPOON WITH BARB RIGHTWARDS;sLEFTWARDS;
    0RIGHTWARDS ARROW OVER LEFTWARDS ARROW;0UPWARDS ARROW LEFTWARDS OF DOWNWARDS ARROW;
    0LEFTWARDS ARROW OVER RIGHTWARDS ARROW;aPAIRED ARROWS;0UPWARDS PAIRED ARROWS;
    0RIGHTWARDS PAIRED ARROWS;0DOWNWARDS PAIRED ARROWS;
    0LEFTWARDS HARPOON OVER RIGHTWARDS HARPOON;0RIGHTWARDS HARPOON OVER LEFTWARDS HARPOON;
    0LEFTWARDS DOUBLE ARROW WITH STROKE;4 RIGHT DOUBLE ARROW WITH STROKE;
    0RIGHTWARDS DOUBLE ARROW WITH STROKE;0LEFTWARDS DOUBLE ARROW;0UPWARDS DOUBLE ARROW;
    0RIGHTWARDS DOUBLE ARROW;0DOWNWARDS DOUBLE ARROW;0LEFT RIGHT DOUBLE ARROW;
    0UP DOWN DOUBLE ARROW;0NORTH WEST DOUBLE ARROW;6EAST DOUBLE ARROW;0SOUTH EAST DOUBLE ARROW;
    6WEST DOUBLE ARROW;0LEFTWARDS TRIPLE ARROW;0RIGHTWARDS TRIPLE ARROW;
    0LEFTWARDS SQUIGGLE ARROW;0RIGHTWARDS SQUIGGLE ARROW;0UPWARDS ARROW WITH DOUBLE STROKE;
    0DOWNWARDS ARROW WITH DOUBLE STROKE;0LEFTWARDS DASHED ARROW;0UPWARDS DASHED ARROW;
    0RIGHTWARDS DASHED ARROW;0DOWNWARDS DASHED ARROW;0LEFTWARDS ARROW TO BAR;
    0RIGHTWARDS ARROW TO BAR;0LEFTWARDS WHITE ARROW;0UPWARDS WHITE ARROW;
    0RIGHTWARDS WHITE ARROW;0DOWNWARDS WHITE ARROW;0UPWARDS WHITE ARROW FROM BAR;kON PEDESTAL;
    v WITH HORIZONTAL BAR;BVERTICAL BAR;eDOUBLE ARROW;q ON PEDESTAL;
    0RIGHTWARDS WHITE ARROW FROM WALL;0NORTH WEST ARROW TO CORNER;0SOUTH EAST ARROW TO CORNER;
    0UP DOWN WHITE ARROW;0RIGHT ARROW WITH SMALL CIRCLE;
    0DOWNWARDS ARROW LEFTWARDS OF UPWARDS ARROW;0THREE RIGHTWARDS ARROWS;
    0LEFTWARDS ARROW WITH VERTICAL STROKE;0RIGHTWARDS ARROW WITH VERTICAL STROKE;
    0LEFT RIGHT ARROW WITH VERTICAL STROKE;4WARDS ARROW WITH DOUBLE VERTICAL STROKE;
    0RIGHTWARDS ARROW WITH DOUBLE VERTICAL STROKE;0LEFT RIGHT ARROW WITH DOUBLE VERTICAL STROKE;
    4WARDS OPEN-HEADED ARROW;0RIGHTWARDS OPEN-HEADED ARROW;0LEFT RIGHT OPEN-HEADED ARROW;
    0FOR ALL;0COMPLEMENT;0PARTIAL DIFFERENTIAL;0THERE EXISTS;6DOES NOT EXIST;0EMPTY SET;
    0INCREMENT;0NABLA;0ELEMENT OF;0NOT AN ELEMENT OF;0SMALL ELEMENT OF;0CONTAINS AS MEMBER;
    0DOES NOT CONTAIN AS MEMBER;0SMALL CONTAINS AS MEMBER;0END OF PROOF;0N-ARY PRODUCT;
    6COPRODUCT;6SUMMATION;0MINUS SIGN;5-OR-PLUS SIGN;0DOT PLUS;1IVISION SLASH;0SET MINUS;
    0ASTERISK OPERATOR;0RING OPERATOR;0BULLET OPERATOR;0SQUARE ROOT;0CUBE ROOT;0FOURTH ROOT;
    0PROPORTIONAL TO;0INFINITY;0RIGHT ANGLE;0ANGLE;0MEASURED ANGLE;0SPHERICAL ANGLE;0DIVIDES;
    1OES NOT DIVIDE;0PARALLEL TO;0NOT PARALLEL TO;0LOGICAL AND;8OR;0INTERSECTION;0UNION;
    0INTEGRAL;0DOUBLE INTEGRAL;0TRIPLE INTEGRAL;0CONTOUR INTEGRAL;0SURFACE INTEGRAL;
    0VOLUME INTEGRAL;0CLOCKWISE INTEGRAL;aCONTOUR INTEGRAL;0ANTICLOCKWISE CONTOUR INTEGRAL;
    0THEREFORE;0BECAUSE;0RATIO;0PROPORTION;0DOT MINUS;0EXCESS;0GEOMETRIC PROPORTION;0HOMOTHETIC;
    0TILDE OPERATOR;0REVERSED TILDE;0INVERTED LAZY S;0SINE WAVE;0WREATH PRODUCT;0NOT TILDE;
    0MINUS TILDE;0ASYMPTOTICALLY EQUAL TO;0NOT ASYMPTOTICALLY EQUAL TO;0APPROXIMATELY EQUAL TO;
    eBUT NOT ACTUALLY EQUAL TO;0NEITHER APPROXIMATELY NOR ACTUALLY EQUAL TO;0ALMOST EQUAL TO;
    0NOT ALMOST EQUAL TO;0ALMOST EQUAL OR EQUAL TO;0TRIPLE TILDE;0ALL EQUAL TO;0EQUIVALENT TO;
    0GEOMETRICALLY EQUIVALENT TO;0DIFFERENCE BETWEEN;0APPROACHES THE LIMIT;
    0GEOMETRICALLY EQUAL TO;0APPROXIMATELY EQUAL TO OR THE IMAGE OF;
    0IMAGE OF OR APPROXIMATELY EQUAL TO;0COLON EQUALS;0EQUALS COLON;0RING IN EQUAL TO;5EQUAL TO;
    0CORRESPONDS TO;0ESTIMATES;1QUIANGULAR TO;0STAR EQUALS;0DELTA EQUAL TO;
    0EQUAL TO BY DEFINITION;0MEASURED BY;0QUESTIONED EQUAL TO;0NOT EQUAL TO;0IDENTICAL TO;
    0NOT IDENTICAL TO;0STRICTLY EQUIVALENT TO;0LESS-THAN OR EQUAL TO;0GREATER-THAN OR EQUAL TO;
    0LESS-THAN OVER EQUAL TO;0GREATER-THAN OVER EQUAL TO;0LESS-THAN BUT NOT EQUAL TO;
    0GREATER-THAN BUT NOT EQUAL TO;0MUCH LESS-THAN;5GREATER-THAN;0BETWEEN;0NOT EQUIVALENT TO;
    4LESS-THAN;4GREATER-THAN;1EITHER LESS-THAN NOR EQUAL TO;8GREATER-THAN NOR EQUAL TO;
    0LESS-THAN OR EQUIVALENT TO;0GREATER-THAN OR EQUIVALENT TO;
    0NEITHER LESS-THAN NOR EQUIVALENT TO;8GREATER-THAN NOR EQUIVALENT TO;
    0LESS-THAN OR GREATER-THAN;0GREATER-THAN OR LESS-THAN;0NEITHER LESS-THAN NOR GREATER-THAN;
    8GREATER-THAN NOR LESS-THAN;0PRECEDES;0SUCCEEDS;0PRECEDES OR EQUAL TO;0SUCCEEDS OR EQUAL TO;
    0PRECEDES OR EQUIVALENT TO;0SUCCEEDS OR EQUIVALENT TO;0DOES NOT PRECEDE;9SUCCEED;0SUBSET OF;
    2PERSET OF;0NOT A SUBSET OF;8PERSET OF;0SUBSET OF OR EQUAL TO;2PERSET OF OR EQUAL TO;
    0NEITHER A SUBSET OF NOR EQUAL TO;cPERSET OF NOR EQUAL TO;0SUBSET OF WITH NOT EQUAL TO;
    2PERSET OF WITH NOT EQUAL TO;0MULTISET;8 MULTIPLICATION;9UNION;0SQUARE IMAGE OF;
    7ORIGINAL OF;7IMAGE OF OR EQUAL TO;7ORIGINAL OF OR EQUAL TO;7CAP;8UP;0CIRCLED PLUS;8MINUS;
    8TIMES;8DIVISION SLASH;9OT OPERATOR;8RING OPERATOR;8ASTERISK OPERATOR;8EQUALS;8DASH;
    0SQUARED PLUS;8MINUS;8TIMES;8DOT OPERATOR;0RIGHT TACK;0LEFT TACK;0DOWN TACK;0UP TACK;
    0ASSERTION;0MODELS;0TRUE;0FORCES;0TRIPLE VERTICAL BAR RIGHT TURNSTILE;
    0DOUBLE VERTICAL BAR DOUBLE RIGHT TURNSTILE;2ES NOT PROVE;0NOT TRUE;0DOES NOT FORCE;
    0NEGATED DOUBLE VERTICAL BAR DOUBLE RIGHT TURNSTILE;0PRECEDES UNDER RELATION;
    0SUCCEEDS UNDER RELATION;0NORMAL SUBGROUP OF;0CONTAINS AS NORMAL SUBGROUP;
    0NORMAL SUBGROUP OF OR EQUAL TO;0CONTAINS AS NORMAL SUBGROUP OR EQUAL TO;0ORIGINAL OF;
    0IMAGE OF;0MULTIMAP;0HERMITIAN CONJUGATE MATRIX;0INTERCALATE;0XOR;0NAND;1OR;
    0RIGHT ANGLE WITH ARC;6TRIANGLE;0N-ARY LOGICAL AND;eOR;6INTERSECTION;6UNION;
    0DIAMOND OPERATOR;1OT OPERATOR;0STAR OPERATOR;0DIVISION TIMES;0BOWTIE;
    0LEFT NORMAL FACTOR SEMIDIRECT PRODUCT;0RIGHT NORMAL FACTOR SEMIDIRECT PRODUCT;
    0LEFT SEMIDIRECT PRODUCT;0RIGHT SEMIDIRECT PRODUCT;1EVERSED TILDE EQUALS;0CURLY LOGICAL OR;
    eAND;0DOUBLE SUBSET;9PERSET;7INTERSECTION;7UNION;0PITCHFORK;0EQUAL AND PARALLEL TO;
    0LESS-THAN WITH DOT;0GREATER-THAN WITH DOT;0VERY MUCH LESS-THAN;aGREATER-THAN;
    0LESS-THAN EQUAL TO OR GREATER-THAN;0GREATER-THAN EQUAL TO OR LESS-THAN;
    0EQUAL TO OR LESS-THAN;cGREATER-THAN;cPRECEDES;cSUCCEEDS;0DOES NOT PRECEDE OR EQUAL;
    9SUCCEED OR EQUAL;0NOT SQUARE IMAGE OF OR EQUAL TO;bORIGINAL OF OR EQUAL TO;
    0SQUARE IMAGE OF OR NOT EQUAL TO;7ORIGINAL OF OR NOT EQUAL TO;
    0LESS-THAN BUT NOT EQUIVALENT TO;0GREATER-THAN BUT NOT EQUIVALENT TO;
    0PRECEDES BUT NOT EQUIVALENT TO;0SUCCEEDS BUT NOT EQUIVALENT TO;0NOT NORMAL SUBGROUP OF;
    0DOES NOT CONTAIN AS NORMAL SUBGROUP;0NOT NORMAL SUBGROUP OF OR EQUAL TO;
    0DOES NOT CONTAIN AS NORMAL SUBGROUP OR EQUAL;0VERTICAL ELLIPSIS;
    0MIDLINE HORIZONTAL ELLIPSIS;0UP RIGHT DIAGONAL ELLIPSIS;0DOWN RIGHT DIAGONAL ELLIPSIS;
    0ELEMENT OF WITH LONG HORIZONTAL STROKE;gVERTICAL BAR AT END OF HORIZONTAL STROKE;
    0SMALL ELEMENT OF WITH VERTICAL BAR AT END OF HORIZONTAL STROKE;0ELEMENT OF WITH DOT ABOVE;
    gOVERBAR;0SMALL ELEMENT OF WITH OVERBAR;0ELEMENT OF WITH UNDERBAR;gTWO HORIZONTAL STROKES;
    0CONTAINS WITH LONG HORIZONTAL STROKE;eVERTICAL BAR AT END OF HORIZONTAL STROKE;
    0SMALL CONTAINS WITH VERTICAL BAR AT END OF HORIZONTAL STROKE;0CONTAINS WITH OVERBAR;
    0SMALL CONTAINS WITH OVERBAR;0Z NOTATION BAG MEMBERSHIP;0DIAMETER SIGN;0ELECTRIC ARROW;
    0HOUSE;0UP ARROWHEAD;0DOWN ARROWHEAD;0PROJECTIVE;1ERSPECTIVE;0WAVY LINE;0LEFT CEILING;
    0RIGHT CEILING;0LEFT FLOOR;0RIGHT FLOOR;0BOTTOM RIGHT CROP;7LEFT CROP;0TOP RIGHT CROP;
    4LEFT CROP;0REVERSED NOT SIGN;0SQUARE LOZENGE;0ARC;0SEGMENT;2CTOR;0TELEPHONE RECORDER;
    0POSITION INDICATOR;0VIEWDATA SQUARE;0PLACE OF INTEREST SIGN;0TURNED NOT SIGN;0WATCH;
    0HOURGLASS;0TOP LEFT CORNER;4RIGHT CORNER;0BOTTOM LEFT CORNER;7RIGHT CORNER;
    0TOP HALF INTEGRAL;0BOTTOM HALF INTEGRAL;0FROWN;0SMILE;
    0UP ARROWHEAD BETWEEN TWO HORIZONTAL BARS;0OPTION KEY;0ERASE TO THE RIGHT;
    0X IN A RECTANGLE BOX;0KEYBOARD;0LEFT-POINTING ANGLE BRACKET;0RIGHT-POINTING ANGLE BRACKET;
    0ERASE TO THE LEFT;0BENZENE RING;0CYLINDRICITY;0ALL AROUND-PROFILE;0SYMMETRY;0TOTAL RUNOUT;
    0DIMENSION ORIGIN;0CONICAL TAPER;0SLOPE;0COUNTERBORE;7SINK;0APL FUNCTIONAL SYMBOL I-BEAM;
    mSQUISH QUAD;mQUAD EQUAL;rDIVIDE;tAMOND;rJOT;rCIRCLE;mCIRCLE STILE;tJOT;mSLASH BAR;
    mBACKSLASH BAR;mQUAD SLASH;rBACKSLASH;rLESS-THAN;rGREATER-THAN;mLEFTWARDS VANE;
    mRIGHTWARDS VANE;mQUAD LEFTWARDS ARROW;rRIGHTWARDS ARROW;mCIRCLE BACKSLASH;
    mDOWN TACK UNDERBAR;nELTA STILE;mQUAD DOWN CARET;sELTA;mDOWN TACK JOT;mUPWARDS VANE;
    mQUAD UPWARDS ARROW;mUP TACK OVERBAR;mDEL STILE;mQUAD UP CARET;rDEL;mUP TACK JOT;
    mDOWNWARDS VANE;mQUAD DOWNWARDS ARROW;oOTE UNDERBAR;mDELTA UNDERBAR;nIAMOND UNDERBAR;
    mJOT UNDERBAR;mCIRCLE UNDERBAR;mUP SHOE JOT;mQUOTE QUAD;mCIRCLE STAR;mQUAD COLON;
    mUP TACK DIAERESIS;mDEL DIAERESIS;mSTAR DIAERESIS;mJOT DIAERESIS;mCIRCLE DIAERESIS;
    mDOWN SHOE STILE;mLEFT SHOE STILE;mTILDE DIAERESIS;mGREATER-THAN DIAERESIS;mCOMMA BAR;
    mDEL TILDE;mZILDE;mSTILE TILDE;nEMICOLON UNDERBAR;mQUAD NOT EQUAL;rQUESTION;
    mDOWN CARET TILDE;mUP CARET TILDE;mIOTA;mRHO;mOMEGA;mALPHA UNDERBAR;mEPSILON UNDERBAR;
    mIOTA UNDERBAR;mOMEGA UNDERBAR;mALPHA;0NOT CHECK MARK;
    0RIGHT ANGLE WITH DOWNWARDS ZIGZAG ARROW;0SHOULDERED OPEN BOX;0BELL SYMBOL;
    0VERTICAL LINE WITH MIDDLE DOT;0INSERTION SYMBOL;0CONTINUOUS UNDERLINE SYMBOL;
    0DISCONTINUOUS UNDERLINE SYMBOL;0EMPHASIS SYMBOL;0COMPOSITION SYMBOL;
    0WHITE SQUARE WITH CENTRE VERTICAL LINE;0ENTER SYMBOL;0ALTERNATIVE KEY SYMBOL;0HELM SYMBOL;
    0CIRCLED HORIZONTAL BAR WITH NOTCH;8TRIANGLE DOWN;0BROKEN CIRCLE WITH NORTHWEST ARROW;
    0UNDO SYMBOL;0MONOSTABLE SYMBOL;0HYSTERESIS SYMBOL;0OPEN-CIRCUIT-OUTPUT H-TYPE SYMBOL;
    kL-TYPE SYMBOL;0PASSIVE-PULL-DOWN-OUTPUT SYMBOL;dUP-OUTPUT SYMBOL;
    0DIRECT CURRENT SYMBOL FORM TWO;0SOFTWARE-FUNCTION SYMBOL;0APL FUNCTIONAL SYMBOL QUAD;
    0DECIMAL SEPARATOR KEY SYMBOL;0PREVIOUS PAGE;0NEXT PAGE;0PRINT SCREEN SYMBOL;
    0CLEAR SCREEN SYMBOL;0LEFT PARENTHESIS UPPER HOOK;hEXTENSION;hLOWER HOOK;
    0RIGHT PARENTHESIS UPPER HOOK;iEXTENSION;iLOWER HOOK;0LEFT SQUARE BRACKET UPPER CORNER;
    kEXTENSION;kLOWER CORNER;0RIGHT SQUARE BRACKET UPPER CORNER;lEXTENSION;lLOWER CORNER;
    0LEFT CURLY BRACKET UPPER HOOK;jMIDDLE PIECE;jLOWER HOOK;0CURLY BRACKET EXTENSION;
    0RIGHT CURLY BRACKET UPPER HOOK;kMIDDLE PIECE;kLOWER HOOK;0INTEGRAL EXTENSION;
    0HORIZONTAL LINE EXTENSION;0UPPER LEFT OR LOWER RIGHT CURLY BRACKET SECTION;
    6RIGHT OR LOWER LEFT CURLY BRACKET SECTION;0SUMMATION TOP;aBOTTOM;0TOP SQUARE BRACKET;
    0BOTTOM SQUARE BRACKET;l OVER TOP SQUARE BRACKET;0RADICAL SYMBOL BOTTOM;
    0LEFT VERTICAL BOX LINE;0RIGHT VERTICAL BOX LINE;0HORIZONTAL SCAN LINE-1;l3;l7;l9;
    0DENTISTRY SYMBOL LIGHT VERTICAL AND TOP RIGHT;ABOTTOM RIGHT;wWITH CIRCLE;
    nDOWN AND HORIZONTAL WITH CIRCLE;nUP AND HORIZONTAL WITH CIRCLE;nVERTICAL WITH TRIANGLE;
    nDOWN AND HORIZONTAL WITH TRIANGLE;nUP AND HORIZONTAL WITH TRIANGLE;nVERTICAL AND WAVE;
    nDOWN AND HORIZONTAL WITH WAVE;nUP AND HORIZONTAL WITH WAVE;nDOWN AND HORIZONTAL;
    nUP AND HORIZONTAL;nVERTICAL AND TOP LEFT;ABOTTOM LEFT;0SQUARE FOOT;0RETURN SYMBOL;
    0EJECT SYMBOL;0VERTICAL LINE EXTENSION;0METRICAL BREVE;9LONG OVER SHORT;9SHORT OVER LONG;
    9LONG OVER TWO SHORTS;9TWO SHORTS OVER LONG;kJOINED;aRISEME;aETRASEME;9PENTASEME;
    0EARTH GROUND;0FUSE;0TOP PARENTHESIS;0BOTTOM PARENTHESIS;0TOP CURLY BRACKET;
    0BOTTOM CURLY BRACKET;0TOP TORTOISE SHELL BRACKET;0BOTTOM TORTOISE SHELL BRACKET;
    0WHITE TRAPEZIUM;0BENZENE RING WITH CIRCLE;0STRAIGHTNESS;0FLATNESS;0AC CURRENT;
    0ELECTRICAL INTERSECTION;0DECIMAL EXPONENT SYMBOL;0BLACK RIGHT-POINTING DOUBLE TRIANGLE;
    6LEFT-POINTING DOUBLE TRIANGLE;6UP-POINTING DOUBLE TRIANGLE;6DOWN-POINTING DOUBLE TRIANGLE;
    6RIGHT-POINTING DOUBLE TRIANGLE WITH VERTICAL BAR;
    6LEFT-POINTING DOUBLE TRIANGLE WITH VERTICAL BAR;
    6RIGHT-POINTING TRIANGLE WITH DOUBLE VERTICAL BAR;0ALARM CLOCK;0STOPWATCH;0TIMER CLOCK;
    0HOURGLASS WITH FLOWING SAND;0BLACK MEDIUM LEFT-POINTING TRIANGLE;dRIGHT-POINTING TRIANGLE;
    dUP-POINTING TRIANGLE;dDOWN-POINTING TRIANGLE;0DOUBLE VERTICAL BAR;0BLACK SQUARE FOR STOP;
    6CIRCLE FOR RECORD;0POWER SYMBOL;6ON-OFF SYMBOL;8 SYMBOL;6SLEEP SYMBOL;0OBSERVER EYE SYMBOL;
    0SYMBOL FOR NULL;bSTART OF HEADING;kTEXT;bEND OF TEXT;jRANSMISSION;dQUIRY;bACKNOWLEDGE;
    bBELL;cACKSPACE;bHORIZONTAL TABULATION;bLINE FEED;bVERTICAL TABULATION;bFORM FEED;
    bCARRIAGE RETURN;bSHIFT OUT;hIN;bDATA LINK ESCAPE;cEVICE CONTROL ONE;qTWO;rHREE;qFOUR;
    bNEGATIVE ACKNOWLEDGE;bSYNCHRONOUS IDLE;bEND OF TRANSMISSION BLOCK;bCANCEL;bEND OF MEDIUM;
    bSUBSTITUTE;bESCAPE;bFILE SEPARATOR;bGROUP SEPARATOR;bRECORD SEPARATOR;bUNIT SEPARATOR;
    bSPACE;bDELETE;0BLANK SYMBOL;0OPEN BOX;0SYMBOL FOR NEWLINE;bDELETE FORM TWO;
    bSUBSTITUTE FORM TWO;2440=0OCR HOOK;4CHAIR;4FORK;4INVERTED FORK;4BELT BUCKLE;5OW TIE;
    5RANCH BANK IDENTIFICATION;4AMOUNT OF CHECK;4DASH;4CUSTOMER ACCOUNT NUMBER;
    4DOUBLE BACKSLASH;2460=0CIRCLED DIGIT ONE;eTWO;fHREE;eFOUR;fIVE;eSIX;fEVEN;eEIGHT;eNINE;
    8NUMBER TEN;fELEVEN;fTWELVE;gHIRTEEN;fFOURTEEN;gIFTEEN;fSIXTEEN;gEVENTEEN;fEIGHTEEN;
    fNINETEEN;fTWENTY;0PARENTHESIZED DIGIT ONE;kTWO;lHREE;kFOUR;lIVE;kSIX;lEVEN;kEIGHT;kNINE;
    eNUMBER TEN;lELEVEN;lTWELVE;mHIRTEEN;lFOURTEEN;mIFTEEN;lSIXTEEN;mEVENTEEN;lEIGHTEEN;
    lNINETEEN;lTWENTY;0DIGIT ONE FULL STOP;6TWO FULL STOP;7HREE FULL STOP;6FOUR FULL STOP;
    7IVE FULL STOP;6SIX FULL STOP;7EVEN FULL STOP;6EIGHT FULL STOP;6NINE FULL STOP;
    0NUMBER TEN FULL STOP;7ELEVEN FULL STOP;7TWELVE FULL STOP;8HIRTEEN FULL STOP;
    7FOURTEEN FULL STOP;8IFTEEN FULL STOP;7SIXTEEN FULL STOP;8EVENTEEN FULL STOP;
    7EIGHTEEN FULL STOP;7NINETEEN FULL STOP;7TWENTY FULL STOP;
    0PARENTHESIZED LATIN SMALL LETTER A;xB;xC;xD;xE;xF;xG;xH;xI;xJ;xK;xL;xM;xN;xO;xP;xQ;xR;xS;
    xT;xU;xV;xW;xX;xY;xZ;0CIRCLED LATIN CAPITAL LETTER A;tB;tC;tD;tE;tF;tG;tH;tI;tJ;tK;tL;tM;tN;
    tO;tP;tQ;tR;tS;tT;tU;tV;tW;tX;tY;tZ;eSMALL LETTER A;rB;rC;rD;rE;rF;rG;rH;rI;rJ;rK;rL;rM;rN;
    rO;rP;rQ;rR;rS;rT;rU;rV;rW;rX;rY;rZ;8DIGIT ZERO;0NEGATIVE CIRCLED NUMBER ELEVEN;oTWELVE;
    pHIRTEEN;oFOURTEEN;pIFTEEN;oSIXTEEN;pEVENTEEN;oEIGHTEEN;oNINETEEN;oTWENTY;
    0DOUBLE CIRCLED DIGIT ONE;lTWO;mHREE;lFOUR;mIVE;lSIX;mEVEN;lEIGHT;lNINE;fNUMBER TEN;
    0NEGATIVE CIRCLED DIGIT ZERO;0BOX DRAWINGS LIGHT HORIZONTAL;dHEAVY HORIZONTAL;
    dLIGHT VERTICAL;dHEAVY VERTICAL;dLIGHT TRIPLE DASH HORIZONTAL;dHEAVY TRIPLE DASH HORIZONTAL;
    dLIGHT TRIPLE DASH VERTICAL;dHEAVY TRIPLE DASH VERTICAL;dLIGHT QUADRUPLE DASH HORIZONTAL;
    dHEAVY QUADRUPLE DASH HORIZONTAL;dLIGHT QUADRUPLE DASH VERTICAL;
    dHEAVY QUADRUPLE DASH VERTICAL;dLIGHT DOWN AND RIGHT;dDOWN LIGHT AND RIGHT HEAVY;
    iHEAVY AND RIGHT LIGHT;dHEAVY DOWN AND RIGHT;dLIGHT DOWN AND LEFT;
    dDOWN LIGHT AND LEFT HEAVY;iHEAVY AND LEFT LIGHT;dHEAVY DOWN AND LEFT;dLIGHT UP AND RIGHT;
    dUP LIGHT AND RIGHT HEAVY;gHEAVY AND RIGHT LIGHT;dHEAVY UP AND RIGHT;dLIGHT UP AND LEFT;
    dUP LIGHT AND LEFT HEAVY;gHEAVY AND LEFT LIGHT;dHEAVY UP AND LEFT;dLIGHT VERTICAL AND RIGHT;
    dVERTICAL LIGHT AND RIGHT HEAVY;dUP HEAVY AND RIGHT DOWN LIGHT;
    dDOWN HEAVY AND RIGHT UP LIGHT;dVERTICAL HEAVY AND RIGHT LIGHT;
    dDOWN LIGHT AND RIGHT UP HEAVY;dUP LIGHT AND RIGHT DOWN HEAVY;dHEAVY VERTICAL AND RIGHT;
    dLIGHT VERTICAL AND LEFT;dVERTICAL LIGHT AND LEFT HEAVY;dUP HEAVY AND LEFT DOWN LIGHT;
    dDOWN HEAVY AND LEFT UP LIGHT;dVERTICAL HEAVY AND LEFT LIGHT;dDOWN LIGHT AND LEFT UP HEAVY;
    dUP LIGHT AND LEFT DOWN HEAVY;dHEAVY VERTICAL AND LEFT;dLIGHT DOWN AND HORIZONTAL;
    eEFT HEAVY AND RIGHT DOWN LIGHT;dRIGHT HEAVY AND LEFT DOWN LIGHT;
    dDOWN LIGHT AND HORIZONTAL HEAVY;iHEAVY AND HORIZONTAL LIGHT;
    dRIGHT LIGHT AND LEFT DOWN HEAVY;dLEFT LIGHT AND RIGHT DOWN HEAVY;
    dHEAVY DOWN AND HORIZONTAL;dLIGHT UP AND HORIZONTAL;eEFT HEAVY AND RIGHT UP LIGHT;
    dRIGHT HEAVY AND LEFT UP LIGHT;dUP LIGHT AND HORIZONTAL HEAVY;gHEAVY AND HORIZONTAL LIGHT;
    dRIGHT LIGHT AND LEFT UP HEAVY;dLEFT LIGHT AND RIGHT UP HEAVY;dHEAVY UP AND HORIZONTAL;
    dLIGHT VERTICAL AND HORIZONTAL;eEFT HEAVY AND RIGHT VERTICAL LIGHT;
    dRIGHT HEAVY AND LEFT VERTICAL LIGHT;dVERTICAL LIGHT AND HORIZONTAL HEAVY;
    dUP HEAVY AND DOWN HORIZONTAL LIGHT;dDOWN HEAVY AND UP HORIZONTAL LIGHT;
    dVERTICAL HEAVY AND HORIZONTAL LIGHT;dLEFT UP HEAVY AND RIGHT DOWN LIGHT;
    dRIGHT UP HEAVY AND LEFT DOWN LIGHT;dLEFT DOWN HEAVY AND RIGHT UP LIGHT;
    dRIGHT DOWN HEAVY AND LEFT UP LIGHT;dDOWN LIGHT AND UP HORIZONTAL HEAVY;
    dUP LIGHT AND DOWN HORIZONTAL HEAVY;dRIGHT LIGHT AND LEFT VERTICAL HEAVY;
    dLEFT LIGHT AND RIGHT VERTICAL HEAVY;dHEAVY VERTICAL AND HORIZONTAL;
    dLIGHT DOUBLE DASH HORIZONTAL;dHEAVY DOUBLE DASH HORIZONTAL;dLIGHT DOUBLE DASH VERTICAL;
    dHEAVY DOUBLE DASH VERTICAL;dDOUBLE HORIZONTAL;kVERTICAL;fWN SINGLE AND RIGHT DOUBLE;
    iDOUBLE AND RIGHT SINGLE;fUBLE DOWN AND RIGHT;fWN SINGLE AND LEFT DOUBLE;
    iDOUBLE AND LEFT SINGLE;fUBLE DOWN AND LEFT;dUP SINGLE AND RIGHT DOUBLE;
    gDOUBLE AND RIGHT SINGLE;dDOUBLE UP AND RIGHT;dUP SINGLE AND LEFT DOUBLE;
    gDOUBLE AND LEFT SINGLE;dDOUBLE UP AND LEFT;dVERTICAL SINGLE AND RIGHT DOUBLE;
    mDOUBLE AND RIGHT SINGLE;dDOUBLE VERTICAL AND RIGHT;dVERTICAL SINGLE AND LEFT DOUBLE;
    mDOUBLE AND LEFT SINGLE;dDOUBLE VERTICAL AND LEFT;fWN SINGLE AND HORIZONTAL DOUBLE;
    iDOUBLE AND HORIZONTAL SINGLE;fUBLE DOWN AND HORIZONTAL;dUP SINGLE AND HORIZONTAL DOUBLE;
    gDOUBLE AND HORIZONTAL SINGLE;dDOUBLE UP AND HORIZONTAL;
    dVERTICAL SINGLE AND HORIZONTAL DOUBLE;mDOUBLE AND HORIZONTAL SINGLE;
    dDOUBLE VERTICAL AND HORIZONTAL;dLIGHT ARC DOWN AND RIGHT;wLEFT;nUP AND LEFT;uRIGHT;
    jDIAGONAL UPPER RIGHT TO LOWER LEFT;yLEFT TO LOWER RIGHT;sCROSS;jLEFT;jUP;jRIGHT;jDOWN;
    dHEAVY LEFT;jUP;jRIGHT;jDOWN;dLIGHT LEFT AND HEAVY RIGHT;jUP AND HEAVY DOWN;
    dHEAVY LEFT AND LIGHT RIGHT;jUP AND LIGHT DOWN;0UPPER HALF BLOCK;0LOWER ONE EIGHTH BLOCK;
    aQUARTER BLOCK;6THREE EIGHTHS BLOCK;6HALF BLOCK;6FIVE EIGHTHS BLOCK;6THREE QUARTERS BLOCK;
    6SEVEN EIGHTHS BLOCK;0FULL BLOCK;0LEFT SEVEN EIGHTHS BLOCK;5THREE QUARTERS BLOCK;
    5FIVE EIGHTHS BLOCK;5HALF BLOCK;5THREE EIGHTHS BLOCK;5ONE QUARTER BLOCK;9EIGHTH BLOCK;
    0RIGHT HALF BLOCK;0LIGHT SHADE;0MEDIUM SHADE;0DARK SHADE;0UPPER ONE EIGHTH BLOCK;
    0RIGHT ONE EIGHTH BLOCK;0QUADRANT LOWER LEFT;fRIGHT;9UPPER LEFT;
    j AND LOWER LEFT AND LOWER RIGHT;uRIGHT;oUPPER RIGHT AND LOWER LEFT;KRIGHT;fRIGHT;
    k AND LOWER LEFT;z AND LOWER RIGHT;0BLACK SQUARE;0WHITE SQUARE;c WITH ROUNDED CORNERS;
    dCONTAINING BLACK SMALL SQUARE;0SQUARE WITH HORIZONTAL FILL;cVERTICAL FILL;
    cORTHOGONAL CROSSHATCH FILL;cUPPER LEFT TO LOWER RIGHT FILL;iRIGHT TO LOWER LEFT FILL;
    cDIAGONAL CROSSHATCH FILL;0BLACK SMALL SQUARE;0WHITE SMALL SQUARE;0BLACK RECTANGLE;
    0WHITE RECTANGLE;0BLACK VERTICAL RECTANGLE;0WHITE VERTICAL RECTANGLE;0BLACK PARALLELOGRAM;
    0WHITE PARALLELOGRAM;0BLACK UP-POINTING TRIANGLE;0WHITE UP-POINTING TRIANGLE;
    0BLACK UP-POINTING SMALL TRIANGLE;0WHITE UP-POINTING SMALL TRIANGLE;
    0BLACK RIGHT-POINTING TRIANGLE;0WHITE RIGHT-POINTING TRIANGLE;
    0BLACK RIGHT-POINTING SMALL TRIANGLE;0WHITE RIGHT-POINTING SMALL TRIANGLE;
    0BLACK RIGHT-POINTING POINTER;0WHITE RIGHT-POINTING POINTER;0BLACK DOWN-POINTING TRIANGLE;
    0WHITE DOWN-POINTING TRIANGLE;0BLACK DOWN-POINTING SMALL TRIANGLE;
    0WHITE DOWN-POINTING SMALL TRIANGLE;0BLACK LEFT-POINTING TRIANGLE;
    0WHITE LEFT-POINTING TRIANGLE;0BLACK LEFT-POINTING SMALL TRIANGLE;
    0WHITE LEFT-POINTING SMALL TRIANGLE;0BLACK LEFT-POINTING POINTER;
    0WHITE LEFT-POINTING POINTER;0BLACK DIAMOND;0WHITE DIAMOND;d CONTAINING BLACK SMALL DIAMOND;
    0FISHEYE;0LOZENGE;0WHITE CIRCLE;0DOTTED CIRCLE;0CIRCLE WITH VERTICAL FILL;0BULLSEYE;
    1LACK CIRCLE;0CIRCLE WITH LEFT HALF BLACK;cRIGHT HALF BLACK;cLOWER HALF BLACK;
    cUPPER HALF BLACK;iRIGHT QUADRANT BLACK;cALL BUT UPPER LEFT QUADRANT BLACK;
    0LEFT HALF BLACK CIRCLE;0RIGHT HALF BLACK CIRCLE;0INVERSE BULLET;8WHITE CIRCLE;
    0UPPER HALF INVERSE WHITE CIRCLE;0LOWER HALF INVERSE WHITE CIRCLE;
    0UPPER LEFT QUADRANT CIRCULAR ARC;6RIGHT QUADRANT CIRCULAR ARC;
    0LOWER RIGHT QUADRANT CIRCULAR ARC;6LEFT QUADRANT CIRCULAR ARC;0UPPER HALF CIRCLE;
    0LOWER HALF CIRCLE;0BLACK LOWER RIGHT TRIANGLE;cLEFT TRIANGLE;6UPPER LEFT TRIANGLE;
    cRIGHT TRIANGLE;0WHITE BULLET;0SQUARE WITH LEFT HALF BLACK;cRIGHT HALF BLACK;
    cUPPER LEFT DIAGONAL HALF BLACK;cLOWER RIGHT DIAGONAL HALF BLACK;
    0WHITE SQUARE WITH VERTICAL BISECTING LINE;6UP-POINTING TRIANGLE WITH DOT;
    0UP-POINTING TRIANGLE WITH LEFT HALF BLACK;qRIGHT HALF BLACK;0LARGE CIRCLE;
    0WHITE SQUARE WITH UPPER LEFT QUADRANT;iLOWER LEFT QUADRANT;oRIGHT QUADRANT;
    iUPPER RIGHT QUADRANT;6CIRCLE WITH UPPER LEFT QUADRANT;iLOWER LEFT QUADRANT;oRIGHT QUADRANT;
    iUPPER RIGHT QUADRANT;0UPPER LEFT TRIANGLE;6RIGHT TRIANGLE;0LOWER LEFT TRIANGLE;
    0WHITE MEDIUM SQUARE;0BLACK MEDIUM SQUARE;0WHITE MEDIUM SMALL SQUARE;
    0BLACK MEDIUM SMALL SQUARE;0LOWER RIGHT TRIANGLE;0BLACK SUN WITH RAYS;0CLOUD;0UMBRELLA;
    0SNOWMAN;0COMET;0BLACK STAR;0WHITE STAR;0LIGHTNING;0THUNDERSTORM;0SUN;0ASCENDING NODE;
    0DESCENDING NODE;0CONJUNCTION;0OPPOSITION;0BLACK TELEPHONE;0WHITE TELEPHONE;0BALLOT BOX;
    a WITH CHECK;gX;0SALTIRE;0UMBRELLA WITH RAIN DROPS;0HOT BEVERAGE;0WHITE SHOGI PIECE;
    0BLACK SHOGI PIECE;0SHAMROCK;0REVERSED ROTATED FLORAL HEART BULLET;
    0BLACK LEFT POINTING INDEX;6RIGHT POINTING INDEX;0WHITE LEFT POINTING INDEX;
    6UP POINTING INDEX;6RIGHT POINTING INDEX;6DOWN POINTING INDEX;0SKULL AND CROSSBONES;
    0CAUTION SIGN;0RADIOACTIVE SIGN;0BIOHAZARD SIGN;0CADUCEUS;0ANKH;0ORTHODOX CROSS;0CHI RHO;
    1ROSS OF LORRAINE;9JERUSALEM;0STAR AND CRESCENT;0FARSI SYMBOL;0ADI SHAKTI;
    0HAMMER AND SICKLE;0PEACE SYMBOL;0YIN YANG;0TRIGRAM FOR HEAVEN;cLAKE;cFIRE;cTHUNDER;cWIND;
    dATER;cMOUNTAIN;cEARTH;0WHEEL OF DHARMA;2ITE FROWNING FACE;6SMILING FACE;
    0BLACK SMILING FACE;0WHITE SUN WITH RAYS;0FIRST QUARTER MOON;0LAST QUARTER MOON;0MERCURY;
    0FEMALE SIGN;0EARTH;0MALE SIGN;0JUPITER;0SATURN;0URANUS;0NEPTUNE;0PLUTO;0ARIES;0TAURUS;
    0GEMINI;0CANCER;0LEO;0VIRGO;0LIBRA;0SCORPIUS;1AGITTARIUS;0CAPRICORN;0AQUARIUS;0PISCES;
    0WHITE CHESS KING;cQUEEN;cROOK;cBISHOP;cKNIGHT;cPAWN;0BLACK CHESS KING;cQUEEN;cROOK;cBISHOP;
    cKNIGHT;cPAWN;6SPADE SUIT;0WHITE HEART SUIT;6DIAMOND SUIT;0BLACK CLUB SUIT;
    0WHITE SPADE SUIT;0BLACK HEART SUIT;6DIAMOND SUIT;0WHITE CLUB SUIT;0HOT SPRINGS;
    0QUARTER NOTE;0EIGHTH NOTE;0BEAMED EIGHTH NOTES;7SIXTEENTH NOTES;0MUSIC FLAT SIGN;
    6NATURAL SIGN;6SHARP SIGN;0WEST SYRIAC CROSS;0EAST SYRIAC CROSS;0UNIVERSAL RECYCLING SYMBOL;
    0RECYCLING SYMBOL FOR TYPE-1 PLASTICS;q2 PLASTICS;q3 PLASTICS;q4 PLASTICS;q5 PLASTICS;
    q6 PLASTICS;q7 PLASTICS;lGENERIC MATERIALS;0BLACK UNIVERSAL RECYCLING SYMBOL;
    0RECYCLED PAPER SYMBOL;0PARTIALLY-RECYCLED PAPER SYMBOL;1ERMANENT PAPER SIGN;
    0WHEELCHAIR SYMBOL;0DIE FACE-1;92;93;94;95;96;0WHITE CIRCLE WITH DOT RIGHT;iTWO DOTS;
    0BLACK CIRCLE WITH WHITE DOT RIGHT;iTWO WHITE DOTS;0MONOGRAM FOR YANG;eIN;
    0DIGRAM FOR GREATER YANG;bLESSER YIN;jANG;bGREATER YIN;0WHITE FLAG;0BLACK FLAG;
    0HAMMER AND PICK;0ANCHOR;0CROSSED SWORDS;0STAFF OF AESCULAPIUS;1CALES;0ALEMBIC;0FLOWER;
    0GEAR;0STAFF OF HERMES;0ATOM SYMBOL;0FLEUR-DE-LIS;0OUTLINED WHITE STAR;
    0THREE LINES CONVERGING RIGHT;nLEFT;0WARNING SIGN;0HIGH VOLTAGE SIGN;0DOUBLED FEMALE SIGN;
    8MALE SIGN;0INTERLOCKED FEMALE AND MALE SIGN;0MALE AND FEMALE SIGN;5WITH STROKE SIGN;
    hAND MALE AND FEMALE SIGN;0VERTICAL MALE WITH STROKE SIGN;0HORIZONTAL MALE WITH STROKE SIGN;
    0MEDIUM WHITE CIRCLE;7BLACK CIRCLE;7SMALL WHITE CIRCLE;1ARRIAGE SYMBOL;0DIVORCE SYMBOL;
    0UNMARRIED PARTNERSHIP SYMBOL;0COFFIN;0FUNERAL URN;0NEUTER;0CERES;0PALLAS;0JUNO;0VESTA;
    0CHIRON;0BLACK MOON LILITH;0SEXTILE;2MISEXTILE;0QUINCUNX;0SESQUIQUADRATE;1OCCER BALL;
    0BASEBALL;0SQUARED KEY;0WHITE DRAUGHTS MAN;fKING;0BLACK DRAUGHTS MAN;fKING;
    0SNOWMAN WITHOUT SNOW;1UN BEHIND CLOUD;0RAIN;0BLACK SNOWMAN;0THUNDER CLOUD AND RAIN;
    1URNED WHITE SHOGI PIECE;7BLACK SHOGI PIECE;0WHITE DIAMOND IN SQUARE;0CROSSING LANES;
    0DISABLED CAR;0OPHIUCHUS;0PICK;0CAR SLIDING;0HELMET WITH WHITE CROSS;
    0CIRCLED CROSSING LANES;1HAINS;0NO ENTRY;0ALTERNATE ONE-WAY LEFT WAY TRAFFIC;
    0BLACK TWO-WAY LEFT WAY TRAFFIC;0WHITE TWO-WAY LEFT WAY TRAFFIC;0BLACK LEFT LANE MERGE;
    0WHITE LEFT LANE MERGE;0DRIVE SLOW SIGN;0HEAVY WHITE DOWN-POINTING TRIANGLE;
    0LEFT CLOSED ENTRY;0SQUARED SALTIRE;0FALLING DIAGONAL IN WHITE CIRCLE IN BLACK SQUARE;
    0BLACK TRUCK;0RESTRICTED LEFT ENTRY-1;m2;0ASTRONOMICAL SYMBOL FOR URANUS;
    0HEAVY CIRCLE WITH STROKE AND TWO DOTS ABOVE;0PENTAGRAM;0RIGHT-HANDED INTERLACED PENTAGRAM;
    0LEFT-HANDED INTERLACED PENTAGRAM;0INVERTED PENTAGRAM;0BLACK CROSS ON SHIELD;0SHINTO SHRINE;
    0CHURCH;1ASTLE;0HISTORIC SITE;0GEAR WITHOUT HUB;9 HANDLES;0MAP SYMBOL FOR LIGHTHOUSE;
    1OUNTAIN;0UMBRELLA ON GROUND;0FOUNTAIN;1LAG IN HOLE;1ERRY;0SAILBOAT;1QUARE FOUR CORNERS;
    1KIER;0ICE SKATE;0PERSON WITH BALL;0TENT;0JAPANESE BANK SYMBOL;0HEADSTONE GRAVEYARD SYMBOL;
    0FUEL PUMP;0CUP ON BLACK SQUARE;0WHITE FLAG WITH HORIZONTAL MIDDLE BLACK STRIPE;
    0BLACK SAFETY SCISSORS;0UPPER BLADE SCISSORS;0BLACK SCISSORS;0LOWER BLADE SCISSORS;
    0WHITE SCISSORS;6HEAVY CHECK MARK;0TELEPHONE LOCATION SIGN;1APE DRIVE;0AIRPLANE;0ENVELOPE;
    0RAISED FIST;7HAND;0VICTORY HAND;0WRITING HAND;0LOWER RIGHT PENCIL;0PENCIL;
    0UPPER RIGHT PENCIL;0WHITE NIB;0BLACK NIB;0CHECK MARK;0HEAVY CHECK MARK;0MULTIPLICATION X;
    0HEAVY MULTIPLICATION X;0BALLOT X;0HEAVY BALLOT X;0OUTLINED GREEK CROSS;0HEAVY GREEK CROSS;
    0OPEN CENTRE CROSS;0HEAVY OPEN CENTRE CROSS;0LATIN CROSS;0SHADOWED WHITE LATIN CROSS;
    0OUTLINED LATIN CROSS;0MALTESE CROSS;0STAR OF DAVID;0FOUR TEARDROP-SPOKED ASTERISK;
    5BALLOON-SPOKED ASTERISK;0HEAVY FOUR BALLOON-SPOKED ASTERISK;0FOUR CLUB-SPOKED ASTERISK;
    0BLACK FOUR POINTED STAR;0WHITE FOUR POINTED STAR;0SPARKLES;1TRESS OUTLINED WHITE STAR;
    0CIRCLED WHITE STAR;0OPEN CENTRE BLACK STAR;0BLACK CENTRE WHITE STAR;0OUTLINED BLACK STAR;
    0HEAVY OUTLINED BLACK STAR;0PINWHEEL STAR;0SHADOWED WHITE STAR;0HEAVY ASTERISK;
    0OPEN CENTRE ASTERISK;0EIGHT SPOKED ASTERISK;6POINTED BLACK STAR;ePINWHEEL STAR;
    0SIX POINTED BLACK STAR;0EIGHT POINTED RECTILINEAR BLACK STAR;
    0HEAVY EIGHT POINTED RECTILINEAR BLACK STAR;0TWELVE POINTED BLACK STAR;
    0SIXTEEN POINTED ASTERISK;0TEARDROP-SPOKED ASTERISK;0OPEN CENTRE TEARDROP-SPOKED ASTERISK;
    0HEAVY TEARDROP-SPOKED ASTERISK;0SIX PETALLED BLACK AND WHITE FLORETTE;0BLACK FLORETTE;
    0WHITE FLORETTE;0EIGHT PETALLED OUTLINED BLACK FLORETTE;
    0CIRCLED OPEN CENTRE EIGHT POINTED STAR;0HEAVY TEARDROP-SPOKED PINWHEEL ASTERISK;0SNOWFLAKE;
    0TIGHT TRIFOLIATE SNOWFLAKE;0HEAVY CHEVRON SNOWFLAKE;0SPARKLE;0HEAVY SPARKLE;
    0BALLOON-SPOKED ASTERISK;0EIGHT TEARDROP-SPOKED PROPELLER ASTERISK;
    0HEAVY EIGHT TEARDROP-SPOKED PROPELLER ASTERISK;0CROSS MARK;0SHADOWED WHITE CIRCLE;
    0NEGATIVE SQUARED CROSS MARK;0LOWER RIGHT DROP-SHADOWED WHITE SQUARE;
    0UPPER RIGHT DROP-SHADOWED WHITE SQUARE;0LOWER RIGHT SHADOWED WHITE SQUARE;
    0UPPER RIGHT SHADOWED WHITE SQUARE;0BLACK QUESTION MARK ORNAMENT;
    0WHITE QUESTION MARK ORNAMENT;6EXCLAMATION MARK ORNAMENT;0BLACK DIAMOND MINUS WHITE X;
    0HEAVY EXCLAMATION MARK SYMBOL;0LIGHT VERTICAL BAR;0MEDIUM VERTICAL BAR;0HEAVY VERTICAL BAR;
    6SINGLE TURNED COMMA QUOTATION MARK ORNAMENT;dCOMMA QUOTATION MARK ORNAMENT;
    6DOUBLE TURNED COMMA QUOTATION MARK ORNAMENT;dCOMMA QUOTATION MARK ORNAMENT;
    6LOW SINGLE COMMA QUOTATION MARK ORNAMENT;aDOUBLE COMMA QUOTATION MARK ORNAMENT;
    0CURVED STEM PARAGRAPH SIGN ORNAMENT;0HEAVY EXCLAMATION MARK ORNAMENT;
    6HEART EXCLAMATION MARK ORNAMENT;6BLACK HEART;0ROTATED HEAVY BLACK HEART BULLET;
    0FLORAL HEART;0ROTATED FLORAL HEART BULLET;0MEDIUM LEFT PARENTHESIS ORNAMENT;
    7RIGHT PARENTHESIS ORNAMENT;7FLATTENED LEFT PARENTHESIS ORNAMENT;
    hRIGHT PARENTHESIS ORNAMENT;7LEFT-POINTING ANGLE BRACKET ORNAMENT;
    7RIGHT-POINTING ANGLE BRACKET ORNAMENT;0HEAVY LEFT-POINTING ANGLE QUOTATION MARK ORNAMENT;
    6RIGHT-POINTING ANGLE QUOTATION MARK ORNAMENT;6LEFT-POINTING ANGLE BRACKET ORNAMENT;
    6RIGHT-POINTING ANGLE BRACKET ORNAMENT;0LIGHT LEFT TORTOISE SHELL BRACKET ORNAMENT;
    6RIGHT TORTOISE SHELL BRACKET ORNAMENT;0MEDIUM LEFT CURLY BRACKET ORNAMENT;
    7RIGHT CURLY BRACKET ORNAMENT;0DINGBAT NEGATIVE CIRCLED DIGIT ONE;vTWO;wHREE;vFOUR;wIVE;
    vSIX;wEVEN;vEIGHT;vNINE;pNUMBER TEN;8CIRCLED SANS-SERIF DIGIT ONE;xTWO;yHREE;xFOUR;yIVE;
    xSIX;yEVEN;xEIGHT;xNINE;rNUMBER TEN;8NEGATIVE CIRCLED SANS-SERIF DIGIT ONE;GTWO;HHREE;GFOUR;
    HIVE;GSIX;HEVEN;GEIGHT;GNINE;ANUMBER TEN;0HEAVY WIDE-HEADED RIGHTWARDS ARROW;6PLUS SIGN;
    6MINUS SIGN;6DIVISION SIGN;6SOUTH EAST ARROW;6RIGHTWARDS ARROW;6NORTH EAST ARROW;
    0DRAFTING POINT RIGHTWARDS ARROW;0HEAVY ROUND-TIPPED RIGHTWARDS ARROW;
    0TRIANGLE-HEADED RIGHTWARDS ARROW;0HEAVY TRIANGLE-HEADED RIGHTWARDS ARROW;
    0DASHED TRIANGLE-HEADED RIGHTWARDS ARROW;0HEAVY DASHED TRIANGLE-HEADED RIGHTWARDS ARROW;
    0BLACK RIGHTWARDS ARROW;0THREE-D TOP-LIGHTED RIGHTWARDS ARROWHEAD;
    8BOTTOM-LIGHTED RIGHTWARDS ARROWHEAD;0BLACK RIGHTWARDS ARROWHEAD;
    0HEAVY BLACK CURVED DOWNWARDS AND RIGHTWARDS ARROW;jUPWARDS AND RIGHTWARDS ARROW;
    0SQUAT BLACK RIGHTWARDS ARROW;0HEAVY CONCAVE-POINTED BLACK RIGHTWARDS ARROW;
    0RIGHT-SHADED WHITE RIGHTWARDS ARROW;0LEFT-SHADED WHITE RIGHTWARDS ARROW;
    0BACK-TILTED SHADOWED WHITE RIGHTWARDS ARROW;0FRONT-TILTED SHADOWED WHITE RIGHTWARDS ARROW;
    0HEAVY LOWER RIGHT-SHADOWED WHITE RIGHTWARDS ARROW;
    6UPPER RIGHT-SHADOWED WHITE RIGHTWARDS ARROW;
    0NOTCHED LOWER RIGHT-SHADOWED WHITE RIGHTWARDS ARROW;0CURLY LOOP;
    0NOTCHED UPPER RIGHT-SHADOWED WHITE RIGHTWARDS ARROW;0CIRCLED HEAVY WHITE RIGHTWARDS ARROW;
    0WHITE-FEATHERED RIGHTWARDS ARROW;0BLACK-FEATHERED SOUTH EAST ARROW;gRIGHTWARDS ARROW;
    gNORTH EAST ARROW;0HEAVY BLACK-FEATHERED SOUTH EAST ARROW;mRIGHTWARDS ARROW;
    mNORTH EAST ARROW;0TEARDROP-BARBED RIGHTWARDS ARROW;
    0HEAVY TEARDROP-SHANKED RIGHTWARDS ARROW;0WEDGE-TAILED RIGHTWARDS ARROW;
    0HEAVY WEDGE-TAILED RIGHTWARDS ARROW;0OPEN-OUTLINED RIGHTWARDS ARROW;0DOUBLE CURLY LOOP;
    0THREE DIMENSIONAL ANGLE;0WHITE TRIANGLE CONTAINING SMALL WHITE TRIANGLE;0PERPENDICULAR;
    0OPEN SUBSET;7PERSET;0LEFT S-SHAPED BAG DELIMITER;0RIGHT S-SHAPED BAG DELIMITER;
    0OR WITH DOT INSIDE;0REVERSE SOLIDUS PRECEDING SUBSET;0SUPERSET PRECEDING SOLIDUS;
    0VERTICAL BAR WITH HORIZONTAL STROKE;0MATHEMATICAL RISING DIAGONAL;0LONG DIVISION;
    0MATHEMATICAL FALLING DIAGONAL;0SQUARED LOGICAL AND;gOR;0WHITE DIAMOND WITH CENTRED DOT;
    0AND WITH DOT;0ELEMENT OF OPENING UPWARDS;0LOWER RIGHT CORNER WITH DOT;
    0UPPER LEFT CORNER WITH DOT;0LEFT OUTER JOIN;0RIGHT OUTER JOIN;0FULL OUTER JOIN;
    0LARGE UP TACK;6DOWN TACK;1EFT AND RIGHT DOUBLE TURNSTILE;fTACK;5MULTIMAP;1ONG RIGHT TACK;
    5LEFT TACK;0UP TACK WITH CIRCLE ABOVE;0LOZENGE DIVIDED BY HORIZONTAL RULE;
    0WHITE CONCAVE-SIDED DIAMOND;r WITH LEFTWARDS TICK;xRIGHTWARDS TICK;
    6SQUARE WITH LEFTWARDS TICK;iRIGHTWARDS TICK;0MATHEMATICAL LEFT WHITE SQUARE BRACKET;
    dRIGHT WHITE SQUARE BRACKET;dLEFT ANGLE BRACKET;dRIGHT ANGLE BRACKET;
    dLEFT DOUBLE ANGLE BRACKET;dRIGHT DOUBLE ANGLE BRACKET;dLEFT WHITE TORTOISE SHELL BRACKET;
    dRIGHT WHITE TORTOISE SHELL BRACKET;dLEFT FLATTENED PARENTHESIS;
    dRIGHT FLATTENED PARENTHESIS;0UPWARDS QUADRUPLE ARROW;0DOWNWARDS QUADRUPLE ARROW;
    0ANTICLOCKWISE GAPPED CIRCLE ARROW;0CLOCKWISE GAPPED CIRCLE ARROW;
    0RIGHT ARROW WITH CIRCLED PLUS;0LONG LEFTWARDS ARROW;5RIGHTWARDS ARROW;5LEFT RIGHT ARROW;
    9WARDS DOUBLE ARROW;5RIGHTWARDS DOUBLE ARROW;5LEFT RIGHT DOUBLE ARROW;9WARDS ARROW FROM BAR;
    5RIGHTWARDS ARROW FROM BAR;5LEFTWARDS DOUBLE ARROW FROM BAR;
    5RIGHTWARDS DOUBLE ARROW FROM BAR;gSQUIGGLE ARROW;0BRAILLE PATTERN BLANK;gDOTS-1;l2;l12;l3;
    l13;l23;l123;l4;l14;l24;l124;l34;l134;l234;l1234;l5;l15;l25;l125;l35;l135;l235;l1235;l45;
    l145;l245;l1245;l345;l1345;l2345;l12345;l6;l16;l26;l126;l36;l136;l236;l1236;l46;l146;l246;
    l1246;l346;l1346;l2346;l12346;l56;l156;l256;l1256;l356;l1356;l2356;l12356;l456;l1456;l2456;
    l12456;l3456;l13456;l23456;l123456;l7;l17;l27;l127;l37;l137;l237;l1237;l47;l147;l247;l1247;
    l347;l1347;l2347;l12347;l57;l157;l257;l1257;l357;l1357;l2357;l12357;l457;l1457;l2457;l12457;
    l3457;l13457;l23457;l123457;l67;l167;l267;l1267;l367;l1367;l2367;l12367;l467;l1467;l2467;
    l12467;l3467;l13467;l23467;l123467;l567;l1567;l2567;l12567;l3567;l13567;l23567;l123567;
    l4567;l14567;l24567;l124567;l34567;l134567;l234567;l1234567;l8;l18;l28;l128;l38;l138;l238;
    l1238;l48;l148;l248;l1248;l348;l1348;l2348;l12348;l58;l158;l258;l1258;l358;l1358;l2358;
    l12358;l458;l1458;l2458;l12458;l3458;l13458;l23458;l123458;l68;l168;l268;l1268;l368;l1368;
    l2368;l12368;l468;l1468;l2468;l12468;l3468;l13468;l23468;l123468;l568;l1568;l2568;l12568;
    l3568;l13568;l23568;l123568;l4568;l14568;l24568;l124568;l34568;l134568;l234568;l1234568;l78;
    l178;l278;l1278;l378;l1378;l2378;l12378;l478;l1478;l2478;l12478;l3478;l13478;l23478;l123478;
    l578;l1578;l2578;l12578;l3578;l13578;l23578;l123578;l4578;l14578;l24578;l124578;l34578;
    l134578;l234578;l1234578;l678;l1678;l2678;l12678;l3678;l13678;l23678;l123678;l4678;l14678;
    l24678;l124678;l34678;l134678;l234678;l1234678;l5678;l15678;l25678;l125678;l35678;l135678;
    l235678;l1235678;l45678;l145678;l245678;l1245678;l345678;l1345678;l2345678;l12345678;
    0RIGHTWARDS TWO-HEADED ARROW WITH VERTICAL STROKE;xDOUBLE VERTICAL STROKE;
    0LEFTWARDS DOUBLE ARROW WITH VERTICAL STROKE;0RIGHTWARDS DOUBLE ARROW WITH VERTICAL STROKE;
    0LEFT RIGHT DOUBLE ARROW WITH VERTICAL STROKE;0RIGHTWARDS TWO-HEADED ARROW FROM BAR;
    0LEFTWARDS DOUBLE ARROW FROM BAR;0RIGHTWARDS DOUBLE ARROW FROM BAR;
    0DOWNWARDS ARROW WITH HORIZONTAL STROKE;0UPWARDS ARROW WITH HORIZONTAL STROKE;8TRIPLE ARROW;
    0DOWNWARDS TRIPLE ARROW;0LEFTWARDS DOUBLE DASH ARROW;0RIGHTWARDS DOUBLE DASH ARROW;
    0LEFTWARDS TRIPLE DASH ARROW;0RIGHTWARDS TRIPLE DASH ARROW;cWO-HEADED TRIPLE DASH ARROW;
    bARROW WITH DOTTED STEM;0UPWARDS ARROW TO BAR;0DOWNWARDS ARROW TO BAR;
    0RIGHTWARDS ARROW WITH TAIL WITH VERTICAL STROKE;wDOUBLE VERTICAL STROKE;
    bTWO-HEADED ARROW WITH TAIL;B WITH VERTICAL STROKE;HDOUBLE VERTICAL STROKE;
    0LEFTWARDS ARROW-TAIL;0RIGHTWARDS ARROW-TAIL;0LEFTWARDS DOUBLE ARROW-TAIL;
    0RIGHTWARDS DOUBLE ARROW-TAIL;0LEFTWARDS ARROW TO BLACK DIAMOND;
    0RIGHTWARDS ARROW TO BLACK DIAMOND;0LEFTWARDS ARROW FROM BAR TO BLACK DIAMOND;
    0RIGHTWARDS ARROW FROM BAR TO BLACK DIAMOND;0NORTH WEST AND SOUTH EAST ARROW;
    6EAST AND SOUTH WEST ARROW;6WEST ARROW WITH HOOK;6EAST ARROW WITH HOOK;
    0SOUTH EAST ARROW WITH HOOK;6WEST ARROW WITH HOOK;0NORTH WEST ARROW AND NORTH EAST ARROW;
    6EAST ARROW AND SOUTH EAST ARROW;0SOUTH EAST ARROW AND SOUTH WEST ARROW;
    6WEST ARROW AND NORTH WEST ARROW;0RISING DIAGONAL CROSSING FALLING DIAGONAL;
    0FALLING DIAGONAL CROSSING RISING DIAGONAL;0SOUTH EAST ARROW CROSSING NORTH EAST ARROW;
    0NORTH EAST ARROW CROSSING SOUTH EAST ARROW;0FALLING DIAGONAL CROSSING NORTH EAST ARROW;
    0RISING DIAGONAL CROSSING SOUTH EAST ARROW;0NORTH EAST ARROW CROSSING NORTH WEST ARROW;
    6WEST ARROW CROSSING NORTH EAST ARROW;0WAVE ARROW POINTING DIRECTLY RIGHT;
    0ARROW POINTING RIGHTWARDS THEN CURVING UPWARDS;DDOWNWARDS;
    fDOWNWARDS THEN CURVING LEFTWARDS;CRIGHTWARDS;0RIGHT-SIDE ARC CLOCKWISE ARROW;
    0LEFT-SIDE ARC ANTICLOCKWISE ARROW;0TOP ARC ANTICLOCKWISE ARROW;
    0BOTTOM ARC ANTICLOCKWISE ARROW;0TOP ARC CLOCKWISE ARROW WITH MINUS;
    8ANTICLOCKWISE ARROW WITH PLUS;0LOWER RIGHT SEMICIRCULAR CLOCKWISE ARROW;
    6LEFT SEMICIRCULAR ANTICLOCKWISE ARROW;0ANTICLOCKWISE CLOSED CIRCLE ARROW;
    0CLOCKWISE CLOSED CIRCLE ARROW;0RIGHTWARDS ARROW ABOVE SHORT LEFTWARDS ARROW;
    0LEFTWARDS ARROW ABOVE SHORT RIGHTWARDS ARROW;0SHORT RIGHTWARDS ARROW ABOVE LEFTWARDS ARROW;
    0RIGHTWARDS ARROW WITH PLUS BELOW;0LEFTWARDS ARROW WITH PLUS BELOW;
    0RIGHTWARDS ARROW THROUGH X;0LEFT RIGHT ARROW THROUGH SMALL CIRCLE;
    0UPWARDS TWO-HEADED ARROW FROM SMALL CIRCLE;0LEFT BARB UP RIGHT BARB DOWN HARPOON;
    aDOWN RIGHT BARB UP HARPOON;0UP BARB RIGHT DOWN BARB LEFT HARPOON;
    8LEFT DOWN BARB RIGHT HARPOON;0LEFT BARB UP RIGHT BARB UP HARPOON;
    0UP BARB RIGHT DOWN BARB RIGHT HARPOON;0LEFT BARB DOWN RIGHT BARB DOWN HARPOON;
    0UP BARB LEFT DOWN BARB LEFT HARPOON;0LEFTWARDS HARPOON WITH BARB UP TO BAR;
    0RIGHTWARDS HARPOON WITH BARB UP TO BAR;0UPWARDS HARPOON WITH BARB RIGHT TO BAR;
    0DOWNWARDS HARPOON WITH BARB RIGHT TO BAR;0LEFTWARDS HARPOON WITH BARB DOWN TO BAR;
    0RIGHTWARDS HARPOON WITH BARB DOWN TO BAR;0UPWARDS HARPOON WITH BARB LEFT TO BAR;
    0DOWNWARDS HARPOON WITH BARB LEFT TO BAR;0LEFTWARDS HARPOON WITH BARB UP FROM BAR;
    0RIGHTWARDS HARPOON WITH BARB UP FROM BAR;0UPWARDS HARPOON WITH BARB RIGHT FROM BAR;
    0DOWNWARDS HARPOON WITH BARB RIGHT FROM BAR;0LEFTWARDS HARPOON WITH BARB DOWN FROM BAR;
    0RIGHTWARDS HARPOON WITH BARB DOWN FROM BAR;0UPWARDS HARPOON WITH BARB LEFT FROM BAR;
    0DOWNWARDS HARPOON WITH BARB LEFT FROM BAR;
    0LEFTWARDS HARPOON WITH BARB UP ABOVE LEFTWARDS HARPOON WITH BARB DOWN;
    0UPWARDS HARPOON WITH BARB LEFT BESIDE UPWARDS HARPOON WITH BARB RIGHT;
    0RIGHTWARDS HARPOON WITH BARB UP ABOVE RIGHTWARDS HARPOON WITH BARB DOWN;
    0DOWNWARDS HARPOON WITH BARB LEFT BESIDE DOWNWARDS HARPOON WITH BARB RIGHT;
    0LEFTWARDS HARPOON WITH BARB UP ABOVE RIGHTWARDS HARPOON WITH BARB UP;
    sDOWN ABOVE RIGHTWARDS HARPOON WITH BARB DOWN;
    0RIGHTWARDS HARPOON WITH BARB UP ABOVE LEFTWARDS HARPOON WITH BARB UP;
    tDOWN ABOVE LEFTWARDS HARPOON WITH BARB DOWN;
    0LEFTWARDS HARPOON WITH BARB UP ABOVE LONG DASH;sDOWN BELOW LONG DASH;
    0RIGHTWARDS HARPOON WITH BARB UP ABOVE LONG DASH;tDOWN BELOW LONG DASH;
    0UPWARDS HARPOON WITH BARB LEFT BESIDE DOWNWARDS HARPOON WITH BARB RIGHT;
    0DOWNWARDS HARPOON WITH BARB LEFT BESIDE UPWARDS HARPOON WITH BARB RIGHT;
    0RIGHT DOUBLE ARROW WITH ROUNDED HEAD;0EQUALS SIGN ABOVE RIGHTWARDS ARROW;
    0TILDE OPERATOR ABOVE RIGHTWARDS ARROW;0LEFTWARDS ARROW ABOVE TILDE OPERATOR;
    0RIGHTWARDS ARROW ABOVE TILDE OPERATOR;nALMOST EQUAL TO;0LESS-THAN ABOVE LEFTWARDS ARROW;
    2FTWARDS ARROW THROUGH LESS-THAN;0GREATER-THAN ABOVE RIGHTWARDS ARROW;
    0SUBSET ABOVE RIGHTWARDS ARROW;0LEFTWARDS ARROW THROUGH SUBSET;
    0SUPERSET ABOVE LEFTWARDS ARROW;0LEFT FISH TAIL;0RIGHT FISH TAIL;0UP FISH TAIL;
    0DOWN FISH TAIL;0TRIPLE VERTICAL BAR DELIMITER;0Z NOTATION SPOT;bTYPE COLON;
    0LEFT WHITE CURLY BRACKET;0RIGHT WHITE CURLY BRACKET;0LEFT WHITE PARENTHESIS;
    0RIGHT WHITE PARENTHESIS;0Z NOTATION LEFT IMAGE BRACKET;bRIGHT IMAGE BRACKET;
    bLEFT BINDING BRACKET;bRIGHT BINDING BRACKET;0LEFT SQUARE BRACKET WITH UNDERBAR;
    0RIGHT SQUARE BRACKET WITH UNDERBAR;0LEFT SQUARE BRACKET WITH TICK IN TOP CORNER;
    0RIGHT SQUARE BRACKET WITH TICK IN BOTTOM CORNER;
    0LEFT SQUARE BRACKET WITH TICK IN BOTTOM CORNER;
    0RIGHT SQUARE BRACKET WITH TICK IN TOP CORNER;0LEFT ANGLE BRACKET WITH DOT;
    0RIGHT ANGLE BRACKET WITH DOT;0LEFT ARC LESS-THAN BRACKET;0RIGHT ARC GREATER-THAN BRACKET;
    0DOUBLE LEFT ARC GREATER-THAN BRACKET;7RIGHT ARC LESS-THAN BRACKET;
    0LEFT BLACK TORTOISE SHELL BRACKET;0RIGHT BLACK TORTOISE SHELL BRACKET;0DOTTED FENCE;
    0VERTICAL ZIGZAG LINE;0MEASURED ANGLE OPENING LEFT;0RIGHT ANGLE VARIANT WITH SQUARE;
    0MEASURED RIGHT ANGLE WITH DOT;0ANGLE WITH S INSIDE;1CUTE ANGLE;
    0SPHERICAL ANGLE OPENING LEFT;oUP;0TURNED ANGLE;0REVERSED ANGLE;0ANGLE WITH UNDERBAR;
    0REVERSED ANGLE WITH UNDERBAR;0OBLIQUE ANGLE OPENING UP;mDOWN;
    0MEASURED ANGLE WITH OPEN ARM ENDING IN ARROW POINTING UP AND RIGHT;ZLEFT;SDOWN AND RIGHT;
    ZD LEFT;SRIGHT AND UP;SLEFT AND UP;SRIGHT AND DOWN;SLEFT AND DOWN;0REVERSED EMPTY SET;
    0EMPTY SET WITH OVERBAR;fSMALL CIRCLE ABOVE;fRIGHT ARROW ABOVE;fLEFT ARROW ABOVE;
    0CIRCLE WITH HORIZONTAL BAR;6D VERTICAL BAR;8PARALLEL;8REVERSE SOLIDUS;8PERPENDICULAR;
    6 DIVIDED BY HORIZONTAL BAR AND TOP HALF DIVIDED BY VERTICAL BAR;7WITH SUPERIMPOSED X;
    6D ANTICLOCKWISE-ROTATED DIVISION SIGN;0UP ARROW THROUGH CIRCLE;0CIRCLED WHITE BULLET;
    8BULLET;8LESS-THAN;8GREATER-THAN;6 WITH SMALL CIRCLE TO THE RIGHT;
    cTWO HORIZONTAL STROKES TO THE RIGHT;0SQUARED RISING DIAGONAL SLASH;8FALLING DIAGONAL SLASH;
    8ASTERISK;8SMALL CIRCLE;9QUARE;0TWO JOINED SQUARES;1RIANGLE WITH DOT ABOVE;eUNDERBAR;
    0S IN TRIANGLE;0TRIANGLE WITH SERIFS AT BOTTOM;0RIGHT TRIANGLE ABOVE LEFT TRIANGLE;
    0LEFT TRIANGLE BESIDE VERTICAL BAR;0VERTICAL BAR BESIDE RIGHT TRIANGLE;
    0BOWTIE WITH LEFT HALF BLACK;cRIGHT HALF BLACK;1LACK BOWTIE;0TIMES WITH LEFT HALF BLACK;
    bRIGHT HALF BLACK;0WHITE HOURGLASS;0BLACK HOURGLASS;0LEFT WIGGLY FENCE;0RIGHT WIGGLY FENCE;
    0LEFT DOUBLE WIGGLY FENCE;0RIGHT DOUBLE WIGGLY FENCE;0INCOMPLETE INFINITY;
    0TIE OVER INFINITY;0INFINITY NEGATED WITH VERTICAL BAR;0DOUBLE-ENDED MULTIMAP;
    0SQUARE WITH CONTOURED OUTLINE;0INCREASES AS;0SHUFFLE PRODUCT;
    0EQUALS SIGN AND SLANTED PARALLEL;w WITH TILDE ABOVE;0IDENTICAL TO AND SLANTED PARALLEL;
    0GLEICH STARK;0THERMODYNAMIC;0DOWN-POINTING TRIANGLE WITH LEFT HALF BLACK;sRIGHT HALF BLACK;
    0BLACK DIAMOND WITH DOWN ARROW;6LOZENGE;0WHITE CIRCLE WITH DOWN ARROW;
    0BLACK CIRCLE WITH DOWN ARROW;0ERROR-BARRED WHITE SQUARE;dBLACK SQUARE;dWHITE DIAMOND;
    dBLACK DIAMOND;dWHITE CIRCLE;dBLACK CIRCLE;0RULE-DELAYED;1EVERSE SOLIDUS OPERATOR;
    0SOLIDUS WITH OVERBAR;0REVERSE SOLIDUS WITH HORIZONTAL STROKE;0BIG SOLIDUS;4REVERSE SOLIDUS;
    0DOUBLE PLUS;0TRIPLE PLUS;0LEFT-POINTING CURVED ANGLE BRACKET;
    0RIGHT-POINTING CURVED ANGLE BRACKET;0TINY;0MINY;0N-ARY CIRCLED DOT OPERATOR;ePLUS OPERATOR;
    eTIMES OPERATOR;6UNION OPERATOR WITH DOT;qPLUS;6SQUARE INTERSECTION OPERATOR;
    dUNION OPERATOR;0TWO LOGICAL AND OPERATOR;cOR OPERATOR;0N-ARY TIMES OPERATOR;
    0MODULO TWO SUM;0SUMMATION WITH INTEGRAL;0QUADRUPLE INTEGRAL OPERATOR;0FINITE PART INTEGRAL;
    0INTEGRAL WITH DOUBLE STROKE;9AVERAGE WITH SLASH;0CIRCULATION FUNCTION;
    0ANTICLOCKWISE INTEGRATION;0LINE INTEGRATION WITH RECTANGULAR PATH AROUND POLE;
    mSEMICIRCULAR PATH AROUND POLE;hNOT INCLUDING THE POLE;0INTEGRAL AROUND A POINT OPERATOR;
    0QUATERNION INTEGRAL OPERATOR;0INTEGRAL WITH LEFTWARDS ARROW WITH HOOK;eTIMES SIGN;
    eINTERSECTION;eUNION;eOVERBAR;eUNDERBAR;0JOIN;0LARGE LEFT TRIANGLE OPERATOR;
    0Z NOTATION SCHEMA COMPOSITION;iPIPING;jROJECTION;0PLUS SIGN WITH SMALL CIRCLE ABOVE;
    fCIRCUMFLEX ACCENT ABOVE;fTILDE ABOVE;fDOT BELOW;fTILDE BELOW;fSUBSCRIPT TWO;
    fBLACK TRIANGLE;0MINUS SIGN WITH COMMA ABOVE;gDOT BELOW;gFALLING DOTS;gRISING DOTS;
    0PLUS SIGN IN LEFT HALF CIRCLE;dRIGHT HALF CIRCLE;0VECTOR OR CROSS PRODUCT;
    0MULTIPLICATION SIGN WITH DOT ABOVE;pUNDERBAR;0SEMIDIRECT PRODUCT WITH BOTTOM CLOSED;
    1MASH PRODUCT;0MULTIPLICATION SIGN IN LEFT HALF CIRCLE;nRIGHT HALF CIRCLE;
    0CIRCLED MULTIPLICATION SIGN WITH CIRCUMFLEX ACCENT;0MULTIPLICATION SIGN IN DOUBLE CIRCLE;
    0CIRCLED DIVISION SIGN;0PLUS SIGN IN TRIANGLE;0MINUS SIGN IN TRIANGLE;
    1ULTIPLICATION SIGN IN TRIANGLE;0INTERIOR PRODUCT;0RIGHTHAND INTERIOR PRODUCT;
    0Z NOTATION RELATIONAL COMPOSITION;0AMALGAMATION OR COPRODUCT;0INTERSECTION WITH DOT;
    0UNION WITH MINUS SIGN;bOVERBAR;0INTERSECTION WITH OVERBAR;iLOGICAL AND;
    0UNION WITH LOGICAL OR;6ABOVE INTERSECTION;0INTERSECTION ABOVE UNION;
    0UNION ABOVE BAR ABOVE INTERSECTION;0INTERSECTION ABOVE BAR ABOVE UNION;
    0UNION BESIDE AND JOINED WITH UNION;0INTERSECTION BESIDE AND JOINED WITH INTERSECTION;
    0CLOSED UNION WITH SERIFS;7INTERSECTION WITH SERIFS;0DOUBLE SQUARE INTERSECTION;eUNION;
    0CLOSED UNION WITH SERIFS AND SMASH PRODUCT;0LOGICAL AND WITH DOT ABOVE;8OR WITH DOT ABOVE;
    0DOUBLE LOGICAL AND;fOR;0TWO INTERSECTING LOGICAL AND;pOR;0SLOPING LARGE OR;eAND;
    0LOGICAL OR OVERLAPPING LOGICAL AND;8AND WITH MIDDLE STEM;8OR WITH MIDDLE STEM;
    8AND WITH HORIZONTAL DASH;8OR WITH HORIZONTAL DASH;8AND WITH DOUBLE OVERBAR;hUNDERBAR;
    hDOUBLE UNDERBAR;0SMALL VEE WITH UNDERBAR;0LOGICAL OR WITH DOUBLE OVERBAR;nUNDERBAR;
    0Z NOTATION DOMAIN ANTIRESTRICTION;bRANGE ANTIRESTRICTION;0EQUALS SIGN WITH DOT BELOW;
    0IDENTICAL WITH DOT ABOVE;0TRIPLE HORIZONTAL BAR WITH DOUBLE VERTICAL STROKE;
    rTRIPLE VERTICAL STROKE;1ILDE OPERATOR WITH DOT ABOVE;kRISING DOTS;0SIMILAR MINUS SIMILAR;
    0CONGRUENT WITH DOT ABOVE;0EQUALS WITH ASTERISK;0ALMOST EQUAL TO WITH CIRCUMFLEX ACCENT;
    1PPROXIMATELY EQUAL OR EQUAL TO;0EQUALS SIGN ABOVE PLUS SIGN;0PLUS SIGN ABOVE EQUALS SIGN;
    0EQUALS SIGN ABOVE TILDE OPERATOR;0DOUBLE COLON EQUAL;0TWO CONSECUTIVE EQUALS SIGNS;
    1HREE CONSECUTIVE EQUALS SIGNS;0EQUALS SIGN WITH TWO DOTS ABOVE AND TWO DOTS BELOW;
    3IVALENT WITH FOUR DOTS ABOVE;0LESS-THAN WITH CIRCLE INSIDE;
    0GREATER-THAN WITH CIRCLE INSIDE;0LESS-THAN WITH QUESTION MARK ABOVE;
    0GREATER-THAN WITH QUESTION MARK ABOVE;0LESS-THAN OR SLANTED EQUAL TO;
    0GREATER-THAN OR SLANTED EQUAL TO;0LESS-THAN OR SLANTED EQUAL TO WITH DOT INSIDE;
    0GREATER-THAN OR SLANTED EQUAL TO WITH DOT INSIDE;
    0LESS-THAN OR SLANTED EQUAL TO WITH DOT ABOVE;
    0GREATER-THAN OR SLANTED EQUAL TO WITH DOT ABOVE;
    0LESS-THAN OR SLANTED EQUAL TO WITH DOT ABOVE RIGHT;
    0GREATER-THAN OR SLANTED EQUAL TO WITH DOT ABOVE LEFT;0LESS-THAN OR APPROXIMATE;
    0GREATER-THAN OR APPROXIMATE;0LESS-THAN AND SINGLE-LINE NOT EQUAL TO;
    0GREATER-THAN AND SINGLE-LINE NOT EQUAL TO;0LESS-THAN AND NOT APPROXIMATE;
    0GREATER-THAN AND NOT APPROXIMATE;0LESS-THAN ABOVE DOUBLE-LINE EQUAL ABOVE GREATER-THAN;
    0GREATER-THAN ABOVE DOUBLE-LINE EQUAL ABOVE LESS-THAN;0LESS-THAN ABOVE SIMILAR OR EQUAL;
    0GREATER-THAN ABOVE SIMILAR OR EQUAL;0LESS-THAN ABOVE SIMILAR ABOVE GREATER-THAN;
    0GREATER-THAN ABOVE SIMILAR ABOVE LESS-THAN;
    0LESS-THAN ABOVE GREATER-THAN ABOVE DOUBLE-LINE EQUAL;
    0GREATER-THAN ABOVE LESS-THAN ABOVE DOUBLE-LINE EQUAL;
    0LESS-THAN ABOVE SLANTED EQUAL ABOVE GREATER-THAN ABOVE SLANTED EQUAL;
    0GREATER-THAN ABOVE SLANTED EQUAL ABOVE LESS-THAN ABOVE SLANTED EQUAL;
    0SLANTED EQUAL TO OR LESS-THAN;kGREATER-THAN;kLESS-THAN WITH DOT INSIDE;
    kGREATER-THAN WITH DOT INSIDE;0DOUBLE-LINE EQUAL TO OR LESS-THAN;oGREATER-THAN;
    cSLANTED EQUAL TO OR LESS-THAN;wGREATER-THAN;0SIMILAR OR LESS-THAN;bGREATER-THAN;
    8ABOVE LESS-THAN ABOVE EQUALS SIGN;eGREATER-THAN ABOVE EQUALS SIGN;0DOUBLE NESTED LESS-THAN;
    eGREATER-THAN;eLESS-THAN WITH UNDERBAR;0GREATER-THAN OVERLAPPING LESS-THAN;
    dBESIDE LESS-THAN;0LESS-THAN CLOSED BY CURVE;0GREATER-THAN CLOSED BY CURVE;
    0LESS-THAN CLOSED BY CURVE ABOVE SLANTED EQUAL;
    0GREATER-THAN CLOSED BY CURVE ABOVE SLANTED EQUAL;0SMALLER THAN;0LARGER THAN;
    0SMALLER THAN OR EQUAL TO;0LARGER THAN OR EQUAL TO;0EQUALS SIGN WITH BUMPY ABOVE;
    0PRECEDES ABOVE SINGLE-LINE EQUALS SIGN;0SUCCEEDS ABOVE SINGLE-LINE EQUALS SIGN;
    0PRECEDES ABOVE SINGLE-LINE NOT EQUAL TO;0SUCCEEDS ABOVE SINGLE-LINE NOT EQUAL TO;
    0PRECEDES ABOVE EQUALS SIGN;0SUCCEEDS ABOVE EQUALS SIGN;0PRECEDES ABOVE NOT EQUAL TO;
    0SUCCEEDS ABOVE NOT EQUAL TO;0PRECEDES ABOVE ALMOST EQUAL TO;
    0SUCCEEDS ABOVE ALMOST EQUAL TO;0PRECEDES ABOVE NOT ALMOST EQUAL TO;
    0SUCCEEDS ABOVE NOT ALMOST EQUAL TO;0DOUBLE PRECEDES;7SUCCEEDS;0SUBSET WITH DOT;
    2PERSET WITH DOT;2BSET WITH PLUS SIGN BELOW;2PERSET WITH PLUS SIGN BELOW;
    2BSET WITH MULTIPLICATION SIGN BELOW;2PERSET WITH MULTIPLICATION SIGN BELOW;
    2BSET OF OR EQUAL TO WITH DOT ABOVE;2PERSET OF OR EQUAL TO WITH DOT ABOVE;
    2BSET OF ABOVE EQUALS SIGN;2PERSET OF ABOVE EQUALS SIGN;2BSET OF ABOVE TILDE OPERATOR;
    2PERSET OF ABOVE TILDE OPERATOR;2BSET OF ABOVE ALMOST EQUAL TO;
    2PERSET OF ABOVE ALMOST EQUAL TO;2BSET OF ABOVE NOT EQUAL TO;2PERSET OF ABOVE NOT EQUAL TO;
    1QUARE LEFT OPEN BOX OPERATOR;7RIGHT OPEN BOX OPERATOR;0CLOSED SUBSET;9PERSET;
    9BSET OR EQUAL TO;9PERSET OR EQUAL TO;0SUBSET ABOVE SUPERSET;2PERSET ABOVE SUBSET;
    2BSET ABOVE SUBSET;2PERSET ABOVE SUPERSET;9BESIDE SUBSET;gAND JOINED BY DASH WITH SUBSET;
    0ELEMENT OF OPENING DOWNWARDS;0PITCHFORK WITH TEE TOP;0TRANSVERSAL INTERSECTION;0FORKING;
    0NONFORKING;0SHORT LEFT TACK;6DOWN TACK;6UP TACK;0PERPENDICULAR WITH S;
    0VERTICAL BAR TRIPLE RIGHT TURNSTILE;0DOUBLE VERTICAL BAR LEFT TURNSTILE;
    0VERTICAL BAR DOUBLE LEFT TURNSTILE;0DOUBLE VERTICAL BAR DOUBLE LEFT TURNSTILE;
    0LONG DASH FROM LEFT MEMBER OF DOUBLE VERTICAL;0SHORT DOWN TACK WITH OVERBAR;
    6UP TACK WITH UNDERBAR;eABOVE SHORT DOWN TACK;0DOUBLE DOWN TACK;7UP TACK;7STROKE NOT SIGN;
    0REVERSED DOUBLE STROKE NOT SIGN;0DOES NOT DIVIDE WITH REVERSED NEGATION SLASH;
    0VERTICAL LINE WITH CIRCLE ABOVE;qBELOW;0DOWN TACK WITH CIRCLE BELOW;
    0PARALLEL WITH HORIZONTAL STROKE;eTILDE OPERATOR;0TRIPLE VERTICAL BAR BINARY RELATION;
    kWITH HORIZONTAL STROKE;7COLON OPERATOR;7NESTED LESS-THAN;eGREATER-THAN;
    0DOUBLE-LINE SLANTED LESS-THAN OR EQUAL TO;kGREATER-THAN OR EQUAL TO;
    0TRIPLE SOLIDUS BINARY RELATION;0LARGE TRIPLE VERTICAL BAR OPERATOR;
    0DOUBLE SOLIDUS OPERATOR;0WHITE VERTICAL BAR;0N-ARY WHITE VERTICAL BAR;
    1ORTH EAST WHITE ARROW;6WEST WHITE ARROW;0SOUTH EAST WHITE ARROW;6WEST WHITE ARROW;
    0LEFT RIGHT WHITE ARROW;4WARDS BLACK ARROW;0UPWARDS BLACK ARROW;0DOWNWARDS BLACK ARROW;
    0NORTH EAST BLACK ARROW;6WEST BLACK ARROW;0SOUTH EAST BLACK ARROW;6WEST BLACK ARROW;
    0LEFT RIGHT BLACK ARROW;0UP DOWN BLACK ARROW;0RIGHTWARDS ARROW WITH TIP DOWNWARDS;qUPWARDS;
    0LEFTWARDS ARROW WITH TIP DOWNWARDS;pUPWARDS;0SQUARE WITH TOP HALF BLACK;cBOTTOM HALF BLACK;
    cUPPER RIGHT DIAGONAL HALF BLACK;cLOWER LEFT DIAGONAL HALF BLACK;
    0DIAMOND WITH LEFT HALF BLACK;dRIGHT HALF BLACK;dTOP HALF BLACK;dBOTTOM HALF BLACK;
    1OTTED SQUARE;0BLACK LARGE SQUARE;0WHITE LARGE SQUARE;0BLACK VERY SMALL SQUARE;
    0WHITE VERY SMALL SQUARE;0BLACK PENTAGON;0WHITE PENTAGON;6HEXAGON;0BLACK HEXAGON;
    0HORIZONTAL BLACK HEXAGON;0BLACK LARGE CIRCLE;6MEDIUM DIAMOND;0WHITE MEDIUM DIAMOND;
    0BLACK MEDIUM LOZENGE;0WHITE MEDIUM LOZENGE;0BLACK SMALL DIAMOND;cLOZENGE;
    0WHITE SMALL LOZENGE;0BLACK HORIZONTAL ELLIPSE;0WHITE HORIZONTAL ELLIPSE;
    0BLACK VERTICAL ELLIPSE;0WHITE VERTICAL ELLIPSE;0LEFT ARROW WITH SMALL CIRCLE;
    0THREE LEFTWARDS ARROWS;0LEFT ARROW WITH CIRCLED PLUS;1ONG LEFTWARDS SQUIGGLE ARROW;
    1EFTWARDS TWO-HEADED ARROW WITH VERTICAL STROKE;wDOUBLE VERTICAL STROKE;rFROM BAR;
    lTRIPLE DASH ARROW;aARROW WITH DOTTED STEM;lTAIL WITH VERTICAL STROKE;
    vDOUBLE VERTICAL STROKE;aTWO-HEADED ARROW WITH TAIL;A WITH VERTICAL STROKE;
    GDOUBLE VERTICAL STROKE;aARROW THROUGH X;0WAVE ARROW POINTING DIRECTLY LEFT;
    0EQUALS SIGN ABOVE LEFTWARDS ARROW;0REVERSE TILDE OPERATOR ABOVE LEFTWARDS ARROW;
    0LEFTWARDS ARROW ABOVE REVERSE ALMOST EQUAL TO;0RIGHTWARDS ARROW THROUGH GREATER-THAN;
    pSUPERSET;0LEFTWARDS QUADRUPLE ARROW;0RIGHTWARDS QUADRUPLE ARROW;
    1EVERSE TILDE OPERATOR ABOVE RIGHTWARDS ARROW;
    1IGHTWARDS ARROW ABOVE REVERSE ALMOST EQUAL TO;0TILDE OPERATOR ABOVE LEFTWARDS ARROW;
    0LEFTWARDS ARROW ABOVE ALMOST EQUAL TO;mREVERSE TILDE OPERATOR;
    0RIGHTWARDS ARROW ABOVE REVERSE TILDE OPERATOR;0DOWNWARDS TRIANGLE-HEADED ZIGZAG ARROW;
    0SHORT SLANTED NORTH ARROW;6BACKSLANTED SOUTH ARROW;0WHITE MEDIUM STAR;0BLACK SMALL STAR;
    0WHITE SMALL STAR;0BLACK RIGHT-POINTING PENTAGON;0WHITE RIGHT-POINTING PENTAGON;
    0HEAVY LARGE CIRCLE;6OVAL WITH OVAL INSIDE;6CIRCLE WITH CIRCLE INSIDE;c;cD SALTIRE;
    0SLANTED NORTH ARROW WITH HOOKED HEAD;0BACKSLANTED SOUTH ARROW WITH HOOKED TAIL;
    0SLANTED NORTH ARROW WITH HORIZONTAL TAIL;0BACKSLANTED SOUTH ARROW WITH HORIZONTAL TAIL;
    1ENT ARROW POINTING DOWNWARDS THEN NORTH EAST;
    0SHORT BENT ARROW POINTING DOWNWARDS THEN NORTH EAST;0LEFTWARDS TRIANGLE-HEADED ARROW;
    0UPWARDS TRIANGLE-HEADED ARROW;0RIGHTWARDS TRIANGLE-HEADED ARROW;
    0DOWNWARDS TRIANGLE-HEADED ARROW;0LEFT RIGHT TRIANGLE-HEADED ARROW;
    0UP DOWN TRIANGLE-HEADED ARROW;0NORTH WEST TRIANGLE-HEADED ARROW;
    6EAST TRIANGLE-HEADED ARROW;0SOUTH EAST TRIANGLE-HEADED ARROW;6WEST TRIANGLE-HEADED ARROW;
    0LEFTWARDS TRIANGLE-HEADED DASHED ARROW;0UPWARDS TRIANGLE-HEADED DASHED ARROW;
    0RIGHTWARDS TRIANGLE-HEADED DASHED ARROW;0DOWNWARDS TRIANGLE-HEADED DASHED ARROW;
    0CLOCKWISE TRIANGLE-HEADED OPEN CIRCLE ARROW;
    0ANTICLOCKWISE TRIANGLE-HEADED OPEN CIRCLE ARROW;0LEFTWARDS TRIANGLE-HEADED ARROW TO BAR;
    0UPWARDS TRIANGLE-HEADED ARROW TO BAR;0RIGHTWARDS TRIANGLE-HEADED ARROW TO BAR;
    0DOWNWARDS TRIANGLE-HEADED ARROW TO BAR;2B76=0NORTH WEST TRIANGLE-HEADED ARROW TO BAR;
    6EAST TRIANGLE-HEADED ARROW TO BAR;0SOUTH EAST TRIANGLE-HEADED ARROW TO BAR;
    6WEST TRIANGLE-HEADED ARROW TO BAR;
    0LEFTWARDS TRIANGLE-HEADED ARROW WITH DOUBLE HORIZONTAL STROKE;
    0UPWARDS TRIANGLE-HEADED ARROW WITH DOUBLE HORIZONTAL STROKE;
    0RIGHTWARDS TRIANGLE-HEADED ARROW WITH DOUBLE HORIZONTAL STROKE;
    0DOWNWARDS TRIANGLE-HEADED ARROW WITH DOUBLE HORIZONTAL STROKE;0HORIZONTAL TAB KEY;
    0VERTICAL TAB KEY;0LEFTWARDS TRIANGLE-HEADED ARROW OVER RIGHTWARDS TRIANGLE-HEADED ARROW;
    0UPWARDS TRIANGLE-HEADED ARROW LEFTWARDS OF DOWNWARDS TRIANGLE-HEADED ARROW;
    0RIGHTWARDS TRIANGLE-HEADED ARROW OVER LEFTWARDS TRIANGLE-HEADED ARROW;
    0DOWNWARDS TRIANGLE-HEADED ARROW LEFTWARDS OF UPWARDS TRIANGLE-HEADED ARROW;
    0LEFTWARDS TRIANGLE-HEADED PAIRED ARROWS;0UPWARDS TRIANGLE-HEADED PAIRED ARROWS;
    0RIGHTWARDS TRIANGLE-HEADED PAIRED ARROWS;0DOWNWARDS TRIANGLE-HEADED PAIRED ARROWS;
    0LEFTWARDS BLACK CIRCLED WHITE ARROW;0UPWARDS BLACK CIRCLED WHITE ARROW;
    0RIGHTWARDS BLACK CIRCLED WHITE ARROW;0DOWNWARDS BLACK CIRCLED WHITE ARROW;
    0ANTICLOCKWISE TRIANGLE-HEADED RIGHT U-SHAPED ARROW;uBOTTOM U-SHAPED ARROW;
    uLEFT U-SHAPED ARROW;uTOP U-SHAPED ARROW;0RETURN LEFT;7RIGHT;0NEWLINE LEFT;8RIGHT;
    0FOUR CORNER ARROWS CIRCLING ANTICLOCKWISE;0RIGHTWARDS BLACK ARROW;
    2B97=0SYMBOL FOR TYPE A ELECTRONICS;0THREE-D TOP-LIGHTED LEFTWARDS EQUILATERAL ARROWHEAD;
    8RIGHT-LIGHTED UPWARDS EQUILATERAL ARROWHEAD;8TOP-LIGHTED RIGHTWARDS EQUILATERAL ARROWHEAD;
    8LEFT-LIGHTED DOWNWARDS EQUILATERAL ARROWHEAD;0BLACK LEFTWARDS EQUILATERAL ARROWHEAD;
    6UPWARDS EQUILATERAL ARROWHEAD;6RIGHTWARDS EQUILATERAL ARROWHEAD;
    6DOWNWARDS EQUILATERAL ARROWHEAD;0DOWNWARDS TRIANGLE-HEADED ARROW WITH LONG TIP LEFTWARDS;
    KRIGHTWARDS;0UPWARDS TRIANGLE-HEADED ARROW WITH LONG TIP LEFTWARDS;IRIGHTWARDS;
    0LEFTWARDS TRIANGLE-HEADED ARROW WITH LONG TIP UPWARDS;
    0RIGHTWARDS TRIANGLE-HEADED ARROW WITH LONG TIP UPWARDS;
    0LEFTWARDS TRIANGLE-HEADED ARROW WITH LONG TIP DOWNWARDS;
    0RIGHTWARDS TRIANGLE-HEADED ARROW WITH LONG TIP DOWNWARDS;
    0BLACK CURVED DOWNWARDS AND LEFTWARDS ARROW;rRIGHTWARDS ARROW;dUPWARDS AND LEFTWARDS ARROW;
    pRIGHTWARDS ARROW;dLEFTWARDS AND UPWARDS ARROW;dRIGHTWARDS AND UPWARDS ARROW;
    dLEFTWARDS AND DOWNWARDS ARROW;dRIGHTWARDS AND DOWNWARDS ARROW;0RIBBON ARROW DOWN LEFT;
    iRIGHT;dUP LEFT;gRIGHT;dLEFT UP;dRIGHT UP;dLEFT DOWN;dRIGHT DOWN;
    0UPWARDS WHITE ARROW FROM BAR WITH HORIZONTAL BAR;2 ARROWHEAD IN A RECTANGLE BOX;
    0OVERLAPPING WHITE SQUARES;iAND BLACK SQUARES;cBLACK SQUARES;0BALLOT BOX WITH LIGHT X;
    0CIRCLED X;8BOLD X;0BLACK SQUARE CENTRED;6DIAMOND CENTRED;0TURNED BLACK PENTAGON;
    0HORIZONTAL BLACK OCTAGON;0BLACK OCTAGON;6MEDIUM UP-POINTING TRIANGLE CENTRED;
    dDOWN-POINTING TRIANGLE CENTRED;dLEFT-POINTING TRIANGLE CENTRED;
    dRIGHT-POINTING TRIANGLE CENTRED;0NEPTUNE FORM TWO;0TOP HALF BLACK CIRCLE;
    0BOTTOM HALF BLACK CIRCLE;0LIGHT FOUR POINTED BLACK CUSP;
    0ROTATED LIGHT FOUR POINTED BLACK CUSP;0WHITE FOUR POINTED CUSP;
    0ROTATED WHITE FOUR POINTED CUSP;0SQUARE POSITION INDICATOR;0UNCERTAINTY SIGN;0GROUP MARK;
    0PLUTO FORM TWO;cHREE;bFOUR;cIVE;0TRANSPLUTO;0PROSERPINA;0ASTRAEA;0HYGIEA;0PHOLUS;0NESSUS;
    0WHITE MOON SELENA;0BLACK DIAMOND ON CROSS;0TRUE LIGHT MOON ARTA;0CUPIDO;0HADES;0ZEUS;
    0KRONOS;0APOLLON;1DMETOS;0VULCANUS;0POSEIDON;0LEFT HALF BLACK STAR;0RIGHT HALF BLACK STAR;
    0STAR WITH LEFT HALF BLACK;aRIGHT HALF BLACK;
    0LEFTWARDS TWO-HEADED ARROW WITH TRIANGLE ARROWHEADS;
    0UPWARDS TWO-HEADED ARROW WITH TRIANGLE ARROWHEADS;
    0RIGHTWARDS TWO-HEADED ARROW WITH TRIANGLE ARROWHEADS;
    0DOWNWARDS TWO-HEADED ARROW WITH TRIANGLE ARROWHEADS;0ERIS FORM ONE;aTWO;0SEDNA;
    0RUSSIAN ASTROLOGICAL SYMBOL VIGINTILE;sNOVILE;sQUINTILE;sBINOVILE;sSENTAGON;sTREDECILE;
    0EQUALS SIGN WITH INFINITY BELOW;0UNITED SYMBOL;0SEPARATED SYMBOL;0DOUBLED SYMBOL;
    0PASSED SYMBOL;0REVERSED RIGHT ANGLE;0HELLSCHREIBER PAUSE SYMBOL;
    0GLAGOLITIC CAPITAL LETTER AZU;qBUKY;qVEDE;qGLAGOLI;qDOBRO;qYESTU;qZHIVETE;qDZELO;qZEMLJA;
    qIZHE;rNITIAL IZHE;r;qDJERVI;qKAKO;qLJUDIJE;qMYSLITE;qNASHI;qONU;qPOKOJI;qRITSI;qSLOVO;
    qTVRIDO;qUKU;qFRITU;qHERU;qOTU;qPE;qSHTA;qTSI;qCHRIVI;qSHA;qYERU;tI;rATI;qSPIDERY HA;qYU;
    qSMALL YUS;z WITH TAIL;qYO;qIOTATED SMALL YUS;qBIG YUS;qIOTATED BIG YUS;qFITA;qIZHITSA;
    qSHTAPIC;qTROKUTASTI A;qLATINATE MYSLITE;qCAUDATE CHRIVI;bSMALL LETTER AZU;oBUKY;oVEDE;
    oGLAGOLI;oDOBRO;oYESTU;oZHIVETE;oDZELO;oZEMLJA;oIZHE;pNITIAL IZHE;p;oDJERVI;oKAKO;oLJUDIJE;
    oMYSLITE;oNASHI;oONU;oPOKOJI;oRITSI;oSLOVO;oTVRIDO;oUKU;oFRITU;oHERU;oOTU;oPE;oSHTA;oTSI;
    oCHRIVI;oSHA;oYERU;rI;pATI;oSPIDERY HA;oYU;oSMALL YUS;x WITH TAIL;oYO;oIOTATED SMALL YUS;
    oBIG YUS;oIOTATED BIG YUS;oFITA;oIZHITSA;oSHTAPIC;oTROKUTASTI A;oLATINATE MYSLITE;
    oCAUDATE CHRIVI;0LATIN CAPITAL LETTER L WITH DOUBLE BAR;6SMALL LETTER L WITH DOUBLE BAR;
    6CAPITAL LETTER L WITH MIDDLE TILDE;lP WITH STROKE;lR WITH TAIL;6SMALL LETTER A WITH STROKE;
    jT WITH DIAGONAL STROKE;6CAPITAL LETTER H WITH DESCENDER;6SMALL LETTER H WITH DESCENDER;
    6CAPITAL LETTER K WITH DESCENDER;6SMALL LETTER K WITH DESCENDER;
    6CAPITAL LETTER Z WITH DESCENDER;6SMALL LETTER Z WITH DESCENDER;6CAPITAL LETTER ALPHA;
    lM WITH HOOK;lTURNED A;tLPHA;6SMALL LETTER V WITH RIGHT HOOK;6CAPITAL LETTER W WITH HOOK;
    6SMALL LETTER W WITH HOOK;jV WITH CURL;6CAPITAL LETTER HALF H;6SMALL LETTER HALF H;
    jTAILLESS PHI;jE WITH NOTCH;jTURNED R WITH TAIL;jO WITH LOW RING INSIDE;
    6LETTER SMALL CAPITAL TURNED E;6SUBSCRIPT SMALL LETTER J;0MODIFIER LETTER CAPITAL V;
    0LATIN CAPITAL LETTER S WITH SWASH TAIL;lZ WITH SWASH TAIL;0COPTIC CAPITAL LETTER ALFA;
    7SMALL LETTER ALFA;7CAPITAL LETTER VIDA;7SMALL LETTER VIDA;7CAPITAL LETTER GAMMA;
    7SMALL LETTER GAMMA;7CAPITAL LETTER DALDA;7SMALL LETTER DALDA;7CAPITAL LETTER EIE;
    7SMALL LETTER EIE;7CAPITAL LETTER SOU;7SMALL LETTER SOU;7CAPITAL LETTER ZATA;
    7SMALL LETTER ZATA;7CAPITAL LETTER HATE;7SMALL LETTER HATE;7CAPITAL LETTER THETHE;
    7SMALL LETTER THETHE;7CAPITAL LETTER IAUDA;7SMALL LETTER IAUDA;7CAPITAL LETTER KAPA;
    7SMALL LETTER KAPA;7CAPITAL LETTER LAULA;7SMALL LETTER LAULA;7CAPITAL LETTER MI;
    7SMALL LETTER MI;7CAPITAL LETTER NI;7SMALL LETTER NI;7CAPITAL LETTER KSI;7SMALL LETTER KSI;
    7CAPITAL LETTER O;7SMALL LETTER O;7CAPITAL LETTER PI;7SMALL LETTER PI;7CAPITAL LETTER RO;
    7SMALL LETTER RO;7CAPITAL LETTER SIMA;7SMALL LETTER SIMA;7CAPITAL LETTER TAU;
    7SMALL LETTER TAU;7CAPITAL LETTER UA;7SMALL LETTER UA;7CAPITAL LETTER FI;7SMALL LETTER FI;
    7CAPITAL LETTER KHI;7SMALL LETTER KHI;7CAPITAL LETTER PSI;7SMALL LETTER PSI;
    7CAPITAL LETTER OOU;7SMALL LETTER OOU;7CAPITAL LETTER DIALECT-P ALEF;
    7SMALL LETTER DIALECT-P ALEF;7CAPITAL LETTER OLD COPTIC AIN;7SMALL LETTER OLD COPTIC AIN;
    7CAPITAL LETTER CRYPTOGRAMMIC EIE;7SMALL LETTER CRYPTOGRAMMIC EIE;
    7CAPITAL LETTER DIALECT-P KAPA;7SMALL LETTER DIALECT-P KAPA;7CAPITAL LETTER DIALECT-P NI;
    7SMALL LETTER DIALECT-P NI;7CAPITAL LETTER CRYPTOGRAMMIC NI;7SMALL LETTER CRYPTOGRAMMIC NI;
    7CAPITAL LETTER OLD COPTIC OOU;7SMALL LETTER OLD COPTIC OOU;7CAPITAL LETTER SAMPI;
    7SMALL LETTER SAMPI;7CAPITAL LETTER CROSSED SHEI;7SMALL LETTER CROSSED SHEI;
    7CAPITAL LETTER OLD COPTIC SHEI;7SMALL LETTER OLD COPTIC SHEI;
    7CAPITAL LETTER OLD COPTIC ESH;7SMALL LETTER OLD COPTIC ESH;7CAPITAL LETTER AKHMIMIC KHEI;
    7SMALL LETTER AKHMIMIC KHEI;7CAPITAL LETTER DIALECT-P HORI;7SMALL LETTER DIALECT-P HORI;
    7CAPITAL LETTER OLD COPTIC HORI;7SMALL LETTER OLD COPTIC HORI;7CAPITAL LETTER OLD COPTIC HA;
    7SMALL LETTER OLD COPTIC HA;7CAPITAL LETTER L-SHAPED HA;7SMALL LETTER L-SHAPED HA;
    7CAPITAL LETTER OLD COPTIC HEI;7SMALL LETTER OLD COPTIC HEI;7CAPITAL LETTER OLD COPTIC HAT;
    7SMALL LETTER OLD COPTIC HAT;7CAPITAL LETTER OLD COPTIC GANGIA;
    7SMALL LETTER OLD COPTIC GANGIA;7CAPITAL LETTER OLD COPTIC DJA;7SMALL LETTER OLD COPTIC DJA;
    7CAPITAL LETTER OLD COPTIC SHIMA;7SMALL LETTER OLD COPTIC SHIMA;
    7CAPITAL LETTER OLD NUBIAN SHIMA;7SMALL LETTER OLD NUBIAN SHIMA;
    7CAPITAL LETTER OLD NUBIAN NGI;7SMALL LETTER OLD NUBIAN NGI;7CAPITAL LETTER OLD NUBIAN NYI;
    7SMALL LETTER OLD NUBIAN NYI;7CAPITAL LETTER OLD NUBIAN WAU;7SMALL LETTER OLD NUBIAN WAU;
    8YMBOL KAI;eMI RO;ePI RO;eSTAUROS;eTAU RO;eKHI RO;eSHIMA SIMA;
    7CAPITAL LETTER CRYPTOGRAMMIC SHEI;7SMALL LETTER CRYPTOGRAMMIC SHEI;
    7CAPITAL LETTER CRYPTOGRAMMIC GANGIA;7SMALL LETTER CRYPTOGRAMMIC GANGIA;7COMBINING NI ABOVE;
    hSPIRITUS ASPER;qLENIS;8APITAL LETTER BOHAIRIC KHEI;7SMALL LETTER BOHAIRIC KHEI;
    2CF9=7OLD NUBIAN FULL STOP;iDIRECT QUESTION MARK;iINDIRECT QUESTION MARK;iVERSE DIVIDER;
    7FRACTION ONE HALF;8ULL STOP;7MORPHOLOGICAL DIVIDER;0GEORGIAN SMALL LETTER AN;mBAN;mGAN;
    mDON;mEN;mVIN;mZEN;mTAN;mIN;mKAN;mLAS;mMAN;mNAR;mON;mPAR;mZHAR;mRAE;mSAN;mTAR;mUN;mPHAR;
    mKHAR;mGHAN;mQAR;mSHIN;mCHIN;nAN;mJIL;mCIL;nHAR;mXAN;mJHAN;mHAE;nE;nIE;mWE;mHAR;nOE;
    2D27=mYN;2D2D=mAEN;2D30=0TIFINAGH LETTER YA;iB;jH;iG;jHH;gBERBER ACADEMY YAJ;gYAJ;iD;jH;jD;
    kH;hEY;hAF;iK;gTUAREG YAK;gYAKHH;iH;gBERBER ACADEMY YAH;gTUAREG YAH;gYAHH;iA;iKH;
    gTUAREG YAKH;gYAQ;gTUAREG YAQ;gYI;hAZH;gAHAGGAR YAZH;gTUAREG YAZH;gYAL;iM;iN;gTUAREG YAGN;
    pNG;gYAP;hU;hAR;jR;iGH;gTUAREG YAGH;gAYER YAGH;gYAS;jS;jH;iT;jH;iCH;iTT;iV;iW;iY;iZ;
    gTAWELLEMET YAZ;gYAZZ;hE;hO;2D6F=9MODIFIER LETTER LABIALIZATION MARK;9SEPARATOR MARK;
    2D7F=9CONSONANT JOINER;0ETHIOPIC SYLLABLE LOA;iMOA;iROA;iSOA;jHOA;iBOA;iTOA;iCOA;iNOA;jYOA;
    iGLOTTAL OA;iZOA;iDOA;jDOA;iJOA;iTHOA;iCHOA;iPHOA;jOA;iGGWA;lI;lEE;m;2DA0=iSSA;kU;kI;kAA;
    kEE;l;kO;2DA8=iCCA;kU;kI;kAA;kEE;l;kO;2DB0=iZZA;kU;kI;kAA;kEE;l;kO;2DB8=iCCHA;lU;lI;lAA;lEE;
    m;lO;2DC0=iQYA;kU;kI;kAA;kEE;l;kO;2DC8=iKYA;kU;kI;kAA;kEE;l;kO;2DD0=iXYA;kU;kI;kAA;kEE;l;kO;
    2DD8=iGYA;kU;kI;kAA;kEE;l;kO;2DE0=0COMBINING CYRILLIC LETTER BE;qVE;qGHE;qDE;qZHE;rE;qKA;
    qEL;rM;rN;qO;qPE;qER;rS;qTE;qHA;qTSE;qCHE;qSHA;sCHA;qFITA;qES-TE;qA;qIE;qDJERV;
    qMONOGRAPH UK;qYAT;rU;qIOTIFIED A;qLITTLE YUS;qBIG YUS;qIOTIFIED BIG YUS;
    0RIGHT ANGLE SUBSTITUTION MARKER;cDOTTED SUBSTITUTION MARKER;0LEFT SUBSTITUTION BRACKET;
    0RIGHT SUBSTITUTION BRACKET;0LEFT DOTTED SUBSTITUTION BRACKET;
    0RIGHT DOTTED SUBSTITUTION BRACKET;1AISED INTERPOLATION MARKER;7DOTTED INTERPOLATION MARKER;
    0DOTTED TRANSPOSITION MARKER;0LEFT TRANSPOSITION BRACKET;0RIGHT TRANSPOSITION BRACKET;
    1AISED SQUARE;0LEFT RAISED OMISSION BRACKET;0RIGHT RAISED OMISSION BRACKET;
    0EDITORIAL CORONIS;0PARAGRAPHOS;0FORKED PARAGRAPHOS;0REVERSED FORKED PARAGRAPHOS;
    0HYPODIASTOLE;0DOTTED OBELOS;2WNWARDS ANCORA;0UPWARDS ANCORA;0DOTTED RIGHT-POINTING ANGLE;
    2UBLE OBLIQUE HYPHEN;0INVERTED INTERROBANG;0PALM BRANCH;0HYPHEN WITH DIAERESIS;
    0TILDE WITH RING ABOVE;0LEFT LOW PARAPHRASE BRACKET;0RIGHT LOW PARAPHRASE BRACKET;
    0TILDE WITH DOT ABOVE;fBELOW;0LEFT VERTICAL BAR WITH QUILL;0RIGHT VERTICAL BAR WITH QUILL;
    0TOP LEFT HALF BRACKET;4RIGHT HALF BRACKET;0BOTTOM LEFT HALF BRACKET;7RIGHT HALF BRACKET;
    0LEFT SIDEWAYS U BRACKET;0RIGHT SIDEWAYS U BRACKET;0LEFT DOUBLE PARENTHESIS;
    0RIGHT DOUBLE PARENTHESIS;0TWO DOTS OVER ONE DOT PUNCTUATION;
    0ONE DOT OVER TWO DOTS PUNCTUATION;0SQUARED FOUR DOT PUNCTUATION;0FIVE DOT MARK;
    0REVERSED QUESTION MARK;0VERTICAL TILDE;0RING POINT;0WORD SEPARATOR MIDDLE DOT;
    0TURNED COMMA;0RAISED DOT;7COMMA;0TURNED SEMICOLON;0DAGGER WITH LEFT GUARD;cRIGHT GUARD;
    0TURNED DAGGER;1OP HALF SECTION SIGN;1WO-EM DASH;1HREE-EM DASH;0STENOGRAPHIC FULL STOP;
    0VERTICAL SIX DOTS;0WIGGLY VERTICAL LINE;0CAPITULUM;0DOUBLE HYPHEN;0REVERSED COMMA;
    0DOUBLE LOW-REVERSED-9 QUOTATION MARK;1ASH WITH LEFT UPTURN;1OUBLE SUSPENSION MARK;
    0INVERTED LOW KAVYKA;j WITH KAVYKA ABOVE;0LOW KAVYKA;a WITH DOT;0DOUBLE STACKED COMMA;
    2TTED SOLIDUS;0TRIPLE DAGGER;0MEDIEVAL COMMA;0PARAGRAPHUS MARK;1UNCTUS ELEVATUS MARK;
    0CORNISH VERSE DIVIDER;1ROSS PATTY WITH RIGHT CROSSBAR;hLEFT CROSSBAR;
    0TIRONIAN SIGN CAPITAL ET;0MEDIEVAL EXCLAMATION MARK;9QUESTION MARK;
    0LEFT SQUARE BRACKET WITH STROKE;0RIGHT SQUARE BRACKET WITH STROKE;
    0LEFT SQUARE BRACKET WITH DOUBLE STROKE;0RIGHT SQUARE BRACKET WITH DOUBLE STROKE;
    0TOP HALF LEFT PARENTHESIS;9RIGHT PARENTHESIS;0BOTTOM HALF LEFT PARENTHESIS;
    cRIGHT PARENTHESIS;0OBLIQUE HYPHEN;2E80=0CJK RADICAL REPEAT;cCLIFF;cSECOND ONE;jTWO;kHREE;
    cPERSON;cBOX;cTABLE;cKNIFE ONE;iTWO;cDIVINATION;cSEAL;dMALL ONE;iTWO;cLAME ONE;hTWO;iHREE;
    hFOUR;cSNAKE;cTHREAD;cSNOUT ONE;iTWO;cHEART ONE;iTWO;dAND;cRAP;2E9B=cCHOKE;cSUN;cMOON;
    cDEATH;cMOTHER;cCIVILIAN;cWATER ONE;iTWO;cFIRE;cPAW ONE;gTWO;cSIMPLIFIED HALF TREE TRUNK;
    cCOW;cDOG;cJADE;cBOLT OF CLOTH;cEYE;cSPIRIT ONE;jTWO;cBAMBOO;cSILK;cC-SIMPLIFIED SILK;
    cNET ONE;gTWO;hHREE;gFOUR;cMESH;cSHEEP;cRAM;cEWE;cOLD;cBRUSH ONE;iTWO;cMEAT;dORTAR;
    cGRASS ONE;iTWO;jHREE;cTIGER;cCLOTHES;cWEST ONE;hTWO;cC-SIMPLIFIED SEE;cSIMPLIFIED HORN;
    cHORN;cC-SIMPLIFIED SPEECH;qHELL;cFOOT;cC-SIMPLIFIED CART;cSIMPLIFIED WALK;cWALK ONE;hTWO;
    cCITY;d-SIMPLIFIED GOLD;cLONG ONE;hTWO;cC-SIMPLIFIED LONG;pGATE;cMOUND ONE;iTWO;cRAIN;cBLUE;
    cC-SIMPLIFIED TANNED LEATHER;pLEAF;pWIND;pFLY;cEAT ONE;gTWO;hHREE;cC-SIMPLIFIED EAT;cHEAD;
    cC-SIMPLIFIED HORSE;cBONE;cGHOST;cC-SIMPLIFIED FISH;pBIRD;pSALT;cSIMPLIFIED WHEAT;nYELLOW;
    cC-SIMPLIFIED FROG;cJ-SIMPLIFIED EVEN;cC-SIMPLIFIED EVEN;cJ-SIMPLIFIED TOOTH;
    cC-SIMPLIFIED TOOTH;cJ-SIMPLIFIED DRAGON;cC-SIMPLIFIED DRAGON;cTURTLE;cJ-SIMPLIFIED TURTLE;
    cC-SIMPLIFIED TURTLE;2F00=0KANGXI RADICAL ONE;fLINE;fDOT;fSLASH;gECOND;fHOOK;fTWO;fLID;fMAN;
    fLEGS;fENTER;gIGHT;fDOWN BOX;fCOVER;fICE;fTABLE;fOPEN BOX;fKNIFE;fPOWER;fWRAP;fSPOON;
    fRIGHT OPEN BOX;fHIDING ENCLOSURE;fTEN;fDIVINATION;fSEAL;fCLIFF;fPRIVATE;fAGAIN;fMOUTH;
    fENCLOSURE;gARTH;fSCHOLAR;fGO;h SLOWLY;fEVENING;fBIG;fWOMAN;fCHILD;fROOF;fINCH;fSMALL;fLAME;
    fCORPSE;fSPROUT;fMOUNTAIN;fRIVER;fWORK;fONESELF;fTURBAN;fDRY;fSHORT THREAD;fDOTTED CLIFF;
    fLONG STRIDE;fTWO HANDS;fSHOOT;fBOW;fSNOUT;fBRISTLE;fSTEP;fHEART;gALBERD;fDOOR;fHAND;
    fBRANCH;fRAP;fSCRIPT;fDIPPER;fAXE;fSQUARE;fNOT;fSUN;gAY;fMOON;fTREE;fLACK;fSTOP;fDEATH;
    fWEAPON;fDO NOT;fCOMPARE;fFUR;fCLAN;fSTEAM;fWATER;fFIRE;fCLAW;fFATHER;fDOUBLE X;
    fHALF TREE TRUNK;fSLICE;fFANG;fCOW;fDOG;fPROFOUND;fJADE;fMELON;fTILE;fSWEET;fLIFE;fUSE;
    fFIELD;fBOLT OF CLOTH;fSICKNESS;fDOTTED TENT;fWHITE;fSKIN;fDISH;fEYE;fSPEAR;fARROW;fSTONE;
    gPIRIT;fTRACK;fGRAIN;fCAVE;fSTAND;fBAMBOO;fRICE;fSILK;fJAR;fNET;fSHEEP;fFEATHER;fOLD;fAND;
    fPLOW;fEAR;fBRUSH;fMEAT;gINISTER;fSELF;fARRIVE;fMORTAR;fTONGUE;fOPPOSE;fBOAT;fSTOPPING;
    fCOLOR;fGRASS;fTIGER;fINSECT;fBLOOD;fWALK ENCLOSURE;fCLOTHES;fWEST;fSEE;fHORN;fSPEECH;
    fVALLEY;fBEAN;fPIG;fBADGER;fSHELL;fRED;gUN;fFOOT;fBODY;fCART;fBITTER;fMORNING;fWALK;fCITY;
    fWINE;fDISTINGUISH;fVILLAGE;fGOLD;fLONG;fGATE;fMOUND;fSLAVE;gHORT TAILED BIRD;fRAIN;fBLUE;
    fWRONG;fFACE;fLEATHER;fTANNED LEATHER;fLEEK;fSOUND;fLEAF;fWIND;fFLY;fEAT;fHEAD;fFRAGRANT;
    fHORSE;fBONE;fTALL;fHAIR;fFIGHT;fSACRIFICIAL WINE;fCAULDRON;fGHOST;fFISH;fBIRD;fSALT;fDEER;
    fWHEAT;fHEMP;fYELLOW;fMILLET;fBLACK;fEMBROIDERY;fFROG;fTRIPOD;fDRUM;fRAT;fNOSE;fEVEN;fTOOTH;
    fDRAGON;fTURTLE;fFLUTE;2FF0=0IDEOGRAPHIC DESCRIPTION CHARACTER LEFT TO RIGHT;
    yABOVE TO BELOW;yLEFT TO MIDDLE AND RIGHT;yABOVE TO MIDDLE AND BELOW;yFULL SURROUND;
    ySURROUND FROM ABOVE;MBELOW;MLEFT;MUPPER LEFT;SRIGHT;MLOWER LEFT;yOVERLAID;3000=cSPACE;
    cCOMMA;cFULL STOP;0DITTO MARK;0JAPANESE INDUSTRIAL STANDARD SYMBOL;
    0IDEOGRAPHIC ITERATION MARK;cCLOSING MARK;cNUMBER ZERO;0LEFT ANGLE BRACKET;
    0RIGHT ANGLE BRACKET;0LEFT DOUBLE ANGLE BRACKET;0RIGHT DOUBLE ANGLE BRACKET;
    0LEFT CORNER BRACKET;0RIGHT CORNER BRACKET;0LEFT WHITE CORNER BRACKET;
    0RIGHT WHITE CORNER BRACKET;0LEFT BLACK LENTICULAR BRACKET;0RIGHT BLACK LENTICULAR BRACKET;
    0POSTAL MARK;0GETA MARK;0LEFT TORTOISE SHELL BRACKET;0RIGHT TORTOISE SHELL BRACKET;
    0LEFT WHITE LENTICULAR BRACKET;0RIGHT WHITE LENTICULAR BRACKET;
    0LEFT WHITE TORTOISE SHELL BRACKET;0RIGHT WHITE TORTOISE SHELL BRACKET;
    0LEFT WHITE SQUARE BRACKET;0RIGHT WHITE SQUARE BRACKET;0WAVE DASH;
    0REVERSED DOUBLE PRIME QUOTATION MARK;0DOUBLE PRIME QUOTATION MARK;
    0LOW DOUBLE PRIME QUOTATION MARK;0POSTAL MARK FACE;0HANGZHOU NUMERAL ONE;hTWO;iHREE;hFOUR;
    iIVE;hSIX;iEVEN;hEIGHT;hNINE;0IDEOGRAPHIC LEVEL TONE MARK;cRISING TONE MARK;
    cDEPARTING TONE MARK;cENTERING TONE MARK;0HANGUL SINGLE DOT TONE MARK;7DOUBLE DOT TONE MARK;
    0WAVY DASH;0VERTICAL KANA REPEAT MARK;lWITH VOICED SOUND MARK;lMARK UPPER HALF;
    lWITH VOICED SOUND MARK UPPER HALF;lMARK LOWER HALF;0CIRCLED POSTAL MARK;
    0IDEOGRAPHIC TELEGRAPH LINE FEED SEPARATOR SYMBOL;0HANGZHOU NUMERAL TEN;iWENTY;iHIRTY;
    0VERTICAL IDEOGRAPHIC ITERATION MARK;0MASU MARK;0PART ALTERNATION MARK;
    0IDEOGRAPHIC VARIATION INDICATOR;cHALF FILL SPACE;3041=0HIRAGANA LETTER SMALL A;gA;gSMALL I;
    gI;gSMALL U;gU;gSMALL E;gE;gSMALL O;gO;gKA;gGA;gKI;gGI;gKU;gGU;gKE;gGE;gKO;gGO;gSA;gZA;gSI;
    gZI;gSU;gZU;gSE;gZE;gSO;gZO;gTA;gDA;gTI;gDI;gSMALL TU;gTU;gDU;gTE;gDE;gTO;gDO;gNA;hI;hU;hE;
    hO;gHA;gBA;gPA;gHI;gBI;gPI;gHU;gBU;gPU;gHE;gBE;gPE;gHO;gBO;gPO;gMA;hI;hU;hE;hO;gSMALL YA;
    gYA;gSMALL YU;gYU;gSMALL YO;gYO;gRA;hI;hU;hE;hO;gSMALL WA;gWA;hI;hE;hO;gN;gVU;gSMALL KA;nE;
    3099=0COMBINING KATAKANA-HIRAGANA VOICED SOUND MARK;sSEMI-VOICED SOUND MARK;
    0KATAKANA-HIRAGANA VOICED SOUND MARK;iSEMI-VOICED SOUND MARK;0HIRAGANA ITERATION MARK;
    9VOICED ITERATION MARK;9DIGRAPH YORI;0KATAKANA-HIRAGANA DOUBLE HYPHEN;8 LETTER SMALL A;gA;
    gSMALL I;gI;gSMALL U;gU;gSMALL E;gE;gSMALL O;gO;gKA;gGA;gKI;gGI;gKU;gGU;gKE;gGE;gKO;gGO;gSA;
    gZA;gSI;gZI;gSU;gZU;gSE;gZE;gSO;gZO;gTA;gDA;gTI;gDI;gSMALL TU;gTU;gDU;gTE;gDE;gTO;gDO;gNA;
    hI;hU;hE;hO;gHA;gBA;gPA;gHI;gBI;gPI;gHU;gBU;gPU;gHE;gBE;gPE;gHO;gBO;gPO;gMA;hI;hU;hE;hO;
    gSMALL YA;gYA;gSMALL YU;gYU;gSMALL YO;gYO;gRA;hI;hU;hE;hO;gSMALL WA;gWA;hI;hE;hO;gN;gVU;
    gSMALL KA;nE;gVA;hI;hE;hO;9MIDDLE DOT;8-HIRAGANA PROLONGED SOUND MARK;8 ITERATION MARK;
    9VOICED ITERATION MARK;9DIGRAPH KOTO;3105=0BOPOMOFO LETTER B;gP;gM;gF;gD;gT;gN;gL;gG;gK;gH;
    gJ;gQ;gX;gZH;gCH;gSH;gR;gZ;gC;gS;gA;gO;gE;hH;gAI;gEI;gAU;gOU;gAN;gEN;gANG;gENG;hR;gI;gU;gIU;
    gV;gNG;gGN;gIH;gO WITH DOT ABOVE;gNN;3131=0HANGUL LETTER KIYEOK;eSSANGKIYEOK;eKIYEOK-SIOS;
    eNIEUN;j-CIEUC;kHIEUH;eTIKEUT;eSSANGTIKEUT;eRIEUL;j-KIYEOK;kMIEUM;kPIEUP;kSIOS;kTHIEUTH;
    kPHIEUPH;kHIEUH;eMIEUM;ePIEUP;eSSANGPIEUP;ePIEUP-SIOS;eSIOS;fSANGSIOS;eIEUNG;eCIEUC;
    eSSANGCIEUC;eCHIEUCH;eKHIEUKH;eTHIEUTH;ePHIEUPH;eHIEUH;eA;fE;eYA;gE;eEO;f;eYEO;g;eO;eWA;gE;
    eOE;eYO;eU;eWEO;g;fI;eYU;eEU;eYI;eI;7FILLER;7LETTER SSANGNIEUN;eNIEUN-TIKEUT;kSIOS;kPANSIOS;
    eRIEUL-KIYEOK-SIOS;kTIKEUT;kPIEUP-SIOS;lANSIOS;kYEORINHIEUH;eMIEUM-PIEUP;kSIOS;kPANSIOS;
    eKAPYEOUNMIEUM;ePIEUP-KIYEOK;kTIKEUT;kSIOS-KIYEOK;pTIKEUT;kCIEUC;kTHIEUTH;eKAPYEOUNPIEUP;
    mSSANGPIEUP;eSIOS-KIYEOK;jNIEUN;jTIKEUT;jPIEUP;jCIEUC;ePANSIOS;eSSANGIEUNG;eYESIEUNG;m-SIOS;
    nPANSIOS;eKAPYEOUNPHIEUPH;eSSANGHIEUH;eYEORINHIEUH;fO-YA;jE;hI;fU-YEO;j;hI;eARAEA;jE;
    3190=0IDEOGRAPHIC ANNOTATION LINKING MARK;nREVERSE MARK;nONE MARK;nTWO MARK;oHREE MARK;
    nFOUR MARK;nTOP MARK;nMIDDLE MARK;nBOTTOM MARK;nFIRST MARK;nSECOND MARK;nTHIRD MARK;
    nFOURTH MARK;nHEAVEN MARK;nEARTH MARK;nMAN MARK;0BOPOMOFO LETTER BU;gZI;gJI;gGU;gEE;hNN;gOO;
    hNN;gIR;gANN;gINN;gUNN;gIM;gNGG;gAINN;hUNN;hM;gOM;hNG;gINNN;9FINAL LETTER P;mT;mK;mH;
    9LETTER GH;gLH;gZY;9FINAL LETTER G;9LETTER GW;gKW;gOE;gAH;0CJK STROKE T;bWG;bXG;bBXG;bSW;
    bHZZ;dG;cP;cZWG;bSZWG;bHZT;dZP;cPWG;cZW;dZZ;bN;bH;bS;bP;bSP;bD;bHZ;cG;bSZ;cWZ;cT;cG;bPD;cZ;
    bTN;bSZZ;cWG;bHXWG;cZZZG;bPG;bQ;31F0=0KATAKANA LETTER SMALL KU;mSI;nU;mTO;mNU;mHA;nI;nU;nE;
    nO;mMU;mRA;nI;nU;nE;nO;0PARENTHESIZED HANGUL KIYEOK;lNIEUN;lTIKEUT;lRIEUL;lMIEUM;lPIEUP;
    lSIOS;lIEUNG;lCIEUC;mHIEUCH;lKHIEUKH;lTHIEUTH;lPHIEUPH;lHIEUH;lKIYEOK A;lNIEUN A;lTIKEUT A;
    lRIEUL A;lMIEUM A;lPIEUP A;lSIOS A;lIEUNG A;lCIEUC A;mHIEUCH A;lKHIEUKH A;lTHIEUTH A;
    lPHIEUPH A;lHIEUH A;lCIEUC U;eKOREAN CHARACTER OJEON;w HU;3220=eIDEOGRAPH ONE;oTWO;pHREE;
    oFOUR;pIVE;oSIX;pEVEN;oEIGHT;oNINE;oTEN;oMOON;oFIRE;oWATER;pOOD;oMETAL;oEARTH;oSUN;pTOCK;
    oHAVE;oSOCIETY;oNAME;oSPECIAL;oFINANCIAL;oCONGRATULATION;oLABOR;oREPRESENT;oCALL;oSTUDY;
    pUPERVISE;oENTERPRISE;oRESOURCE;oALLIANCE;oFESTIVAL;oREST;oSELF;oREACH;
    0CIRCLED IDEOGRAPH QUESTION;iKINDERGARTEN;iSCHOOL;iKOTO;8NUMBER TEN ON BLACK SQUARE;
    gWENTY ON BLACK SQUARE;gHIRTY ON BLACK SQUARE;fFORTY ON BLACK SQUARE;gIFTY ON BLACK SQUARE;
    fSIXTY ON BLACK SQUARE;gEVENTY ON BLACK SQUARE;fEIGHTY ON BLACK SQUARE;0PARTNERSHIP SIGN;
    0CIRCLED NUMBER TWENTY ONE;mTWO;nHREE;mFOUR;nIVE;mSIX;nEVEN;mEIGHT;mNINE;gHIRTY;l ONE;mTWO;
    nHREE;mFOUR;nIVE;8HANGUL KIYEOK;fNIEUN;fTIKEUT;fRIEUL;fMIEUM;fPIEUP;fSIOS;fIEUNG;fCIEUC;
    gHIEUCH;fKHIEUKH;fTHIEUTH;fPHIEUPH;fHIEUH;fKIYEOK A;fNIEUN A;fTIKEUT A;fRIEUL A;fMIEUM A;
    fPIEUP A;fSIOS A;fIEUNG A;fCIEUC A;gHIEUCH A;fKHIEUKH A;fTHIEUTH A;fPHIEUPH A;fHIEUH A;
    8KOREAN CHARACTER CHAMKO;pJUEUI;8HANGUL IEUNG U;0KOREAN STANDARD SYMBOL;
    0CIRCLED IDEOGRAPH ONE;iTWO;jHREE;iFOUR;jIVE;iSIX;jEVEN;iEIGHT;iNINE;iTEN;iMOON;iFIRE;
    iWATER;jOOD;iMETAL;iEARTH;iSUN;jTOCK;iHAVE;iSOCIETY;iNAME;iSPECIAL;iFINANCIAL;
    iCONGRATULATION;iLABOR;iSECRET;iMALE;iFEMALE;iSUITABLE;iEXCELLENT;iPRINT;iATTENTION;iITEM;
    iREST;iCOPY;kRRECT;iHIGH;iCENTRE;iLOW;jEFT;iRIGHT;iMEDICINE;iRELIGION;iSTUDY;jUPERVISE;
    iENTERPRISE;iRESOURCE;iALLIANCE;iNIGHT;8NUMBER THIRTY SIX;nEVEN;mEIGHT;mNINE;fFORTY;k ONE;
    lTWO;mHREE;lFOUR;mIVE;lSIX;mEVEN;lEIGHT;lNINE;gIFTY;
    0IDEOGRAPHIC TELEGRAPH SYMBOL FOR JANUARY;xFEBRUARY;xMARCH;xAPRIL;xMAY;xJUNE;zLY;xAUGUST;
    xSEPTEMBER;xOCTOBER;xNOVEMBER;xDECEMBER;0SQUARE HG;7ERG;8V;0LIMITED LIABILITY SIGN;
    0CIRCLED KATAKANA A;hI;hU;hE;hO;hKA;iI;iU;iE;iO;hSA;iI;iU;iE;iO;hTA;iI;iU;iE;iO;hNA;iI;iU;
    iE;iO;hHA;iI;iU;iE;iO;hMA;iI;iU;iE;iO;hYA;iU;iO;hRA;iI;iU;iE;iO;hWA;iI;iE;iO;
    0SQUARE ERA NAME REIWA;7APAATO;8RUHUA;8NPEA;8ARU;7ININGU;9TI;7UON;7ESUKUUDO;8EKAA;7ONSU;
    8OMU;7KAIRI;9RATTO;aORII;7GARON;9NMA;8IGA;9NII;7KYURII;7GIRUDAA;7KIRO;bGURAMU;bMEETORU;
    bWATTO;7GURAMU;dTON;7KURUZEIRO;aOONE;8EESU;8ORUNA;9OPO;7SAIKURU;9NTIIMU;8IRINGU;8ENTI;bO;
    7DAASU;8ESI;8ORU;7TON;7NANO;8OTTO;7HAITU;7PAASENTO;aTU;7BAARERU;7PIASUTORU;9KURU;aO;7BIRU;
    7HUARADDO;9IITO;7BUSSYERU;7HURAN;8EKUTAARU;7PESO;9NIHI;7HERUTU;7PENSU;9EZI;7BEETA;7POINTO;
    7BORUTO;7HON;7PONDO;7HOORU;aN;7MAIKURO;aRU;9HHA;9RUKU;9NSYON;8IKURON;9RI;bBAARU;8EGA;bTON;
    9ETORU;7YAADO;aRU;8UAN;7RITTORU;9RA;8UPII;9UBURU;8EMU;9NTOGEN;7WATTO;
    0IDEOGRAPHIC TELEGRAPH SYMBOL FOR HOUR ZERO;CONE;CTWO;DHREE;CFOUR;DIVE;CSIX;DEVEN;CEIGHT;
    CNINE;CTEN;CELEVEN;CTWELVE;DHIRTEEN;CFOURTEEN;DIFTEEN;CSIXTEEN;DEVENTEEN;CEIGHTEEN;
    CNINETEEN;CTWENTY;I-ONE;JTWO;KHREE;JFOUR;0SQUARE HPA;7DA;7AU;7BAR;7OV;7PC;7DM;9 SQUARED;
    aCUBED;7IU;7ERA NAME HEISEI;gSYOUWA;gTAISYOU;gMEIZI;7CORPORATION;7PA AMPS;7NA;7MU A;8A;7KA;
    8B;7MB;7GB;7CAL;7KCAL;7PF;7NF;7MU F;aG;8G;7KG;7HZ;7KHZ;7MHZ;7GHZ;7THZ;7MU L;8L;7DL;7KL;7FM;
    7NM;7MU M;8M;7CM;7KM;7MM SQUARED;7CM SQUARED;7M SQUARED;7KM SQUARED;7MM CUBED;7CM CUBED;
    7M CUBED;7KM CUBED;7M OVER S;f SQUARED;7PA;7KPA;7MPA;7GPA;7RAD;a OVER S;h SQUARED;7PS;7NS;
    7MU S;8S;7PV;7NV;7MU V;8V;7KV;7MV MEGA;7PW;7NW;7MU W;8W;7KW;7MW MEGA;7K OHM;7M OHM;7AM;7BQ;
    7CC;8D;8 OVER KG;8O;7DB;7GY;7HA;8P;7IN;7KK;8M CAPITAL;8T;7LM;8N;8OG;8X;7MB SMALL;8IL;8OL;
    7PH;8M;8PM;8R;7SR;8V;7WB;7V OVER M;7A OVER M;0IDEOGRAPHIC TELEGRAPH SYMBOL FOR DAY ONE;BTWO;
    CHREE;BFOUR;CIVE;BSIX;CEVEN;BEIGHT;BNINE;BTEN;BELEVEN;BTWELVE;CHIRTEEN;BFOURTEEN;CIFTEEN;
    BSIXTEEN;CEVENTEEN;BEIGHTEEN;BNINETEEN;BTWENTY;H-ONE;ITWO;JHREE;IFOUR;JIVE;ISIX;JEVEN;
    IEIGHT;ININE;CHIRTY;H-ONE;0SQUARE GAL;4DC0=0HEXAGRAM FOR THE CREATIVE HEAVEN;
    hRECEPTIVE EARTH;dDIFFICULTY AT THE BEGINNING;dYOUTHFUL FOLLY;dWAITING;dCONFLICT;dTHE ARMY;
    dHOLDING TOGETHER;dSMALL TAMING;dTREADING;dPEACE;dSTANDSTILL;dFELLOWSHIP;dGREAT POSSESSION;
    dMODESTY;dENTHUSIASM;dFOLLOWING;dWORK ON THE DECAYED;dAPPROACH;dCONTEMPLATION;
    dBITING THROUGH;dGRACE;dSPLITTING APART;dRETURN;dINNOCENCE;dGREAT TAMING;dMOUTH CORNERS;
    dGREAT PREPONDERANCE;dTHE ABYSMAL WATER;hCLINGING FIRE;dINFLUENCE;dDURATION;dRETREAT;
    dGREAT POWER;dPROGRESS;dDARKENING OF THE LIGHT;dTHE FAMILY;dOPPOSITION;eBSTRUCTION;
    dDELIVERANCE;fCREASE;dINCREASE;dBREAKTHROUGH;dCOMING TO MEET;dGATHERING TOGETHER;
    dPUSHING UPWARD;dOPPRESSION;dTHE WELL;dREVOLUTION;dTHE CAULDRON;hAROUSING THUNDER;
    hKEEPING STILL MOUNTAIN;dDEVELOPMENT;dTHE MARRYING MAIDEN;dABUNDANCE;dTHE WANDERER;
    hGENTLE WIND;hJOYOUS LAKE;dDISPERSION;dLIMITATION;dINNER TRUTH;dSMALL PREPONDERANCE;
    dAFTER COMPLETION;dBEFORE COMPLETION;A000=0YI SYLLABLE IT;dX;d;dP;dET;eX;e;eP;cAT;dX;d;dP;
    cUOX;e;eP;cOT;dX;d;dP;cEX;d;cWU;cBIT;eX;e;eP;eET;fX;f;fP;dAT;eX;e;eP;dUOX;f;fP;dOT;eX;e;eP;
    dEX;e;eP;dUT;eX;e;eP;eRX;f;dYT;eX;e;eP;eRX;f;cPIT;eX;e;eP;eEX;f;fP;dAT;eX;e;eP;dUOX;f;fP;
    dOT;eX;e;eP;dUT;eX;e;eP;eRX;f;dYT;eX;e;eP;eRX;f;cBBIT;fX;f;fP;fET;gX;g;gP;eAT;fX;f;fP;eUOX;
    g;gP;eOT;fX;f;fP;eEX;f;fP;eUT;fX;f;fP;fRX;g;eYT;fX;f;fP;cNBIT;fX;f;fP;fEX;g;gP;eAT;fX;f;fP;
    eOT;fX;f;fP;eUT;fX;f;fP;fRX;g;eYT;fX;f;fP;fRX;g;cHMIT;fX;f;fP;fEX;g;gP;eAT;fX;f;fP;eUOX;g;
    gP;eOT;fX;f;fP;eUT;fX;f;fP;fRX;g;eYX;f;fP;fRX;g;cMIT;eX;e;eP;eEX;f;fP;dAT;eX;e;eP;dUOT;fX;f;
    fP;dOT;eX;e;eP;dEX;e;dUT;eX;e;eP;eRX;f;dYT;eX;e;eP;cFIT;eX;e;eP;dAT;eX;e;eP;dOX;e;eP;dUT;eX;
    e;eP;eRX;f;dYT;eX;e;eP;cVIT;eX;e;eP;eET;fX;f;fP;dAT;eX;e;eP;dOT;eX;e;eP;dEX;eP;dUT;eX;e;eP;
    eRX;f;dYT;eX;e;eP;eRX;f;cDIT;eX;e;eP;eEX;f;fP;dAT;eX;e;eP;dUOX;f;dOT;eX;e;eP;dEX;e;eP;dUT;
    eX;e;eP;eRX;f;cTIT;eX;e;eP;eEX;f;fP;dAT;eX;e;eP;dUOT;fX;f;fP;dOT;eX;e;eP;dEX;e;eP;dUT;eX;e;
    eP;eRX;f;cDDIT;fX;f;fP;fEX;g;gP;eAT;fX;f;fP;eUOX;g;gP;eOT;fX;f;fP;eEX;f;fP;eUT;fX;f;fP;fRX;
    g;cNDIT;fX;f;fP;fEX;g;eAT;fX;f;fP;eOT;fX;f;fP;eEX;f;fP;eUT;fX;f;fP;fRX;g;cHNIT;fX;f;fP;fET;
    gX;g;gP;eAT;fX;f;fP;eUOX;g;eOT;fX;fP;eEX;f;fP;eUT;cNIT;eX;e;eP;eEX;f;fP;dAX;e;eP;dUOX;f;fP;
    dOT;eX;e;eP;dEX;e;eP;dUT;eX;e;eP;eRX;f;cHLIT;fX;f;fP;fEX;g;gP;eAT;fX;f;fP;eUOX;g;gP;eOX;f;
    fP;eEX;f;fP;eUT;fX;f;fP;fRX;g;eYT;fX;f;fP;fRX;g;cLIT;eX;e;eP;eET;fX;f;fP;dAT;eX;e;eP;dUOT;
    fX;f;fP;dOT;eX;e;eP;dEX;e;eP;dUT;eX;e;eP;eRX;f;dYT;eX;e;eP;eRX;f;cGIT;eX;e;eP;eET;fX;f;fP;
    dAT;eX;e;eP;dUOT;fX;f;fP;dOT;eX;e;eP;dET;eX;e;eP;dUT;eX;e;eP;eRX;f;cKIT;eX;e;eP;eEX;f;fP;
    dAT;eX;e;eP;dUOX;f;fP;dOT;eX;e;eP;dET;eX;e;eP;dUT;eX;e;eP;eRX;f;cGGIT;fX;f;fEX;g;gP;eAT;fX;
    f;fP;eUOT;gX;g;gP;eOT;fX;f;fP;eET;fX;f;fP;eUT;fX;f;fP;fRX;g;cMGIEX;g;eAT;fX;f;fP;eUOX;g;gP;
    eOT;fX;f;fP;eEX;f;fP;eUT;fX;f;fP;fRX;g;cHXIT;fX;f;fP;fET;gX;g;gP;eAT;fX;f;fP;eUOT;gX;g;gP;
    eOT;fX;f;fP;eEX;f;fP;cNGIEX;g;gP;eAT;fX;f;fP;eUOT;gX;g;eOT;fX;f;fP;eEX;f;fP;cHIT;eEX;f;dAT;
    eX;e;eP;dUOT;fX;f;fP;dOT;eX;e;eP;dEX;e;eP;cWAT;eX;e;eP;dUOX;f;fP;dOX;e;eP;dEX;e;eP;cZIT;eX;
    e;eP;eEX;f;fP;dAT;eX;e;eP;dUOX;f;fP;dOT;eX;e;eP;dEX;e;eP;dUT;eX;e;eP;eRX;f;dYT;eX;e;eP;eRX;
    f;cCIT;eX;e;eP;eET;fX;f;fP;dAT;eX;e;eP;dUOX;f;fP;dOT;eX;e;eP;dEX;e;eP;dUT;eX;e;eP;eRX;f;dYT;
    eX;e;eP;eRX;f;cZZIT;fX;f;fP;fET;gX;g;gP;eAT;fX;f;fP;eOX;f;fP;eEX;f;fP;eUX;f;fP;fRX;g;eYT;fX;
    f;fP;fRX;g;cNZIT;fX;f;fP;fEX;g;gP;eAT;fX;f;fP;eUOX;g;eOX;fP;eEX;f;eUX;f;fP;fRX;g;eYT;fX;f;
    fP;fRX;g;cSIT;eX;e;eP;eEX;f;fP;dAT;eX;e;eP;dUOX;f;fP;dOT;eX;e;eP;dEX;e;eP;dUT;eX;e;eP;eRX;f;
    dYT;eX;e;eP;eRX;f;dSIT;fX;f;fP;fEX;g;gP;eAT;fX;f;fP;eOT;fX;f;fP;eEX;f;fP;eUT;fX;f;fP;eYT;fX;
    f;fP;fRX;g;cZHAT;fX;f;fP;eUOX;g;gP;eOT;fX;f;fP;eET;fX;f;fP;eUT;fX;f;fP;fRX;g;eYT;fX;f;fP;
    fRX;g;cCHAT;fX;f;fP;eUOT;gX;g;gP;eOT;fX;f;fP;eET;fX;f;fP;eUX;f;fP;fRX;g;eYT;fX;f;fP;fRX;g;
    cRRAX;f;eUOX;g;eOT;fX;f;fP;eET;fX;f;fP;eUT;fX;f;fP;fRX;g;eYT;fX;f;fP;fRX;g;cNRAT;fX;f;fP;
    eOX;f;fP;eET;fX;f;fP;eUT;fX;f;fP;fRX;g;eYT;fX;f;fP;fRX;g;cSHAT;fX;f;fP;eUOX;g;gP;eOT;fX;f;
    fP;eET;fX;f;fP;eUT;fX;f;fP;fRX;g;eYT;fX;f;fP;fRX;g;cRAT;eX;e;eP;dUOX;f;fP;dOT;eX;e;eP;dEX;e;
    eP;dUT;eX;e;eP;eRX;f;dYT;eX;e;eP;eRX;f;cJIT;eX;e;eP;eET;fX;f;fP;dUOT;fX;f;fP;dOT;eX;e;eP;
    dUT;eX;e;eP;eRX;f;dYT;eX;e;eP;eRX;f;cQIT;eX;e;eP;eET;fX;f;fP;dUOT;fX;f;fP;dOT;eX;e;eP;dUT;
    eX;e;eP;eRX;f;dYT;eX;e;eP;eRX;f;cJJIT;fX;f;fP;fET;gX;g;gP;eUOX;g;gP;eOT;fX;f;fP;eUT;fX;f;fP;
    fRX;g;eYT;fX;f;fP;cNJIT;fX;f;fP;fET;gX;g;gP;eUOX;g;eOT;fX;f;fP;eUX;f;fP;fRX;g;eYT;fX;f;fP;
    fRX;g;dYIT;fX;f;fP;fET;gX;g;gP;eUOX;g;gP;eOT;fX;f;fP;eUT;fX;f;fP;cXIT;eX;e;eP;eET;fX;f;fP;
    dUOX;f;dOT;eX;e;eP;dYT;eX;e;eP;eRX;f;cYIT;eX;e;eP;eET;fX;f;fP;dUOT;fX;f;fP;dOT;eX;e;eP;dUT;
    eX;e;eP;eRX;f;dYT;eX;e;eP;eRX;f;A490=3RADICAL QOT;bLI;bKIT;bNYIP;bCYP;bSSI;bGGOP;cEP;bMI;
    bHXIT;bLYR;bBBUT;bMOP;bYO;bPUT;bHXUO;bTAT;bGA;bZUP;bCYT;bDDUR;bBUR;bGGUO;bNYOP;bTU;bOP;
    bJJUT;bZOT;bPYT;bHMO;bYIT;bVUR;bSHY;bVEP;bZA;bJO;bNZUP;bJJY;bGOT;bJJIE;bWO;bDU;bSHUR;bLIE;
    bCY;cUOP;cIP;bHXOP;bSHAT;bZUR;bSHOP;bCHE;bZZIET;bNBIE;bKE;A4D0=0LISU LETTER BA;cPA;dHA;cDA;
    cTA;dHA;cGA;cKA;dHA;cJA;cCA;dHA;cDZA;cTSA;eHA;cMA;cNA;cLA;cSA;cZHA;dA;cNGA;cHA;cXA;cHHA;cFA;
    cWA;cSHA;cYA;cGHA;cA;dE;cE;dU;cI;cO;cU;dE;dH;cOE;cTONE MYA TI;hNA PO;hMYA CYA;lBO;lNA;lJEU;
    5PUNCTUATION COMMA;hFULL STOP;0VAI SYLLABLE EE;fN;dHEE;dWEE;gN;dPEE;dBHEE;eEE;dMBEE;dKPEE;
    dMGBEE;dGBEE;dFEE;dVEE;dTEE;eHEE;dDHEE;fHEE;dLEE;dREE;dDEE;dNDEE;dSEE;eHEE;dZEE;eHEE;dCEE;
    dJEE;dNJEE;dYEE;dKEE;dNGGEE;dGEE;dMEE;dNEE;eYEE;dI;eN;dHI;fN;dWI;fN;dPI;dBHI;eI;dMBI;dKPI;
    dMGBI;dGBI;dFI;dVI;dTI;eHI;dDHI;fHI;dLI;dRI;dDI;dNDI;dSI;eHI;dZI;eHI;dCI;dJI;dNJI;dYI;dKI;
    dNGGI;dGI;dMI;dNI;eYI;dA;eN;dNGAN;dHA;fN;dWA;fN;dPA;dBHA;eA;dMBA;dKPA;gN;dMGBA;dGBA;dFA;dVA;
    dTA;eHA;dDHA;fHA;dLA;dRA;dDA;dNDA;dSA;eHA;dZA;eHA;dCA;dJA;dNJA;dYA;dKA;fN;dNGGA;dGA;dMA;dNA;
    eYA;dOO;fN;dHOO;dWOO;gN;dPOO;dBHOO;eOO;dMBOO;dKPOO;dMGBOO;dGBOO;dFOO;dVOO;dTOO;eHOO;dDHOO;
    fHOO;dLOO;dROO;dDOO;dNDOO;dSOO;eHOO;dZOO;eHOO;dCOO;dJOO;dNJOO;dYOO;dKOO;dNGGOO;dGOO;dMOO;
    dNOO;eYOO;dU;eN;dHU;fN;dWU;fN;dPU;dBHU;eU;dMBU;dKPU;dMGBU;dGBU;dFU;dVU;dTU;eHU;dDHU;fHU;dLU;
    dRU;dDU;dNDU;dSU;eHU;dZU;eHU;dCU;dJU;dNJU;dYU;dKU;dNGGU;dGU;dMU;dNU;eYU;dO;eN;dNGON;dHO;fN;
    dWO;fN;dPO;dBHO;eO;dMBO;dKPO;dMGBO;dGBO;gN;dFO;dVO;dTO;eHO;dDHO;fHO;dLO;dRO;dDO;dNDO;dSO;
    eHO;dZO;eHO;dCO;dJO;dNJO;dYO;dKO;dNGGO;dGO;dMO;dNO;eYO;dE;eN;dNGEN;dHE;fN;dWE;fN;dPE;dBHE;
    eE;dMBE;dKPE;gN;dMGBE;dGBE;gN;dFE;dVE;dTE;eHE;dDHE;fHE;dLE;dRE;dDE;dNDE;dSE;eHE;dZE;eHE;dCE;
    dJE;dNJE;dYE;dKE;dNGGE;hN;dGE;fN;dME;dNE;eYE;eG;dLENGTHENER;4COMMA;4FULL STOP;
    4QUESTION MARK;4SYLLABLE NDOLE FA;jKA;jSOO;6MBOL FEENG;bKEENG;bTING;bNII;bBANG;bFAA;bTAA;
    bDANG;cOONG;bKUNG;bTONG;bDO-O;bJONG;4DIGIT ZERO;aONE;aTWO;bHREE;aFOUR;bIVE;aSIX;bEVEN;
    aEIGHT;aNINE;4SYLLABLE NDOLE MA;jDO;A640=0CYRILLIC CAPITAL LETTER ZEMLYA;
    9SMALL LETTER ZEMLYA;9CAPITAL LETTER DZELO;9SMALL LETTER DZELO;9CAPITAL LETTER REVERSED DZE;
    9SMALL LETTER REVERSED DZE;9CAPITAL LETTER IOTA;9SMALL LETTER IOTA;9CAPITAL LETTER DJERV;
    9SMALL LETTER DJERV;9CAPITAL LETTER MONOGRAPH UK;9SMALL LETTER MONOGRAPH UK;
    9CAPITAL LETTER BROAD OMEGA;9SMALL LETTER BROAD OMEGA;9CAPITAL LETTER NEUTRAL YER;
    9SMALL LETTER NEUTRAL YER;9CAPITAL LETTER YERU WITH BACK YER;
    9SMALL LETTER YERU WITH BACK YER;9CAPITAL LETTER IOTIFIED YAT;9SMALL LETTER IOTIFIED YAT;
    9CAPITAL LETTER REVERSED YU;9SMALL LETTER REVERSED YU;9CAPITAL LETTER IOTIFIED A;
    9SMALL LETTER IOTIFIED A;9CAPITAL LETTER CLOSED LITTLE YUS;9SMALL LETTER CLOSED LITTLE YUS;
    9CAPITAL LETTER BLENDED YUS;9SMALL LETTER BLENDED YUS;
    9CAPITAL LETTER IOTIFIED CLOSED LITTLE YUS;9SMALL LETTER IOTIFIED CLOSED LITTLE YUS;
    9CAPITAL LETTER YN;9SMALL LETTER YN;9CAPITAL LETTER REVERSED TSE;9SMALL LETTER REVERSED TSE;
    9CAPITAL LETTER SOFT DE;9SMALL LETTER SOFT DE;9CAPITAL LETTER SOFT EL;9SMALL LETTER SOFT EL;
    9CAPITAL LETTER SOFT EM;9SMALL LETTER SOFT EM;9CAPITAL LETTER MONOCULAR O;
    9SMALL LETTER MONOCULAR O;9CAPITAL LETTER BINOCULAR O;9SMALL LETTER BINOCULAR O;
    9CAPITAL LETTER DOUBLE MONOCULAR O;9SMALL LETTER DOUBLE MONOCULAR O;9LETTER MULTIOCULAR O;
    1OMBINING CYRILLIC VZMET;jTEN MILLIONS SIGN;jHUNDRED MILLIONS SIGN;jTHOUSAND MILLIONS SIGN;
    0SLAVONIC ASTERISK;0COMBINING CYRILLIC LETTER UKRAINIAN IE;qI;qYI;qU;qHARD SIGN;qYERU;
    qSOFT SIGN;qOMEGA;jKAVYKA;jPAYEROK;1YRILLIC KAVYKA;9PAYEROK;9CAPITAL LETTER DWE;
    9SMALL LETTER DWE;9CAPITAL LETTER DZWE;9SMALL LETTER DZWE;9CAPITAL LETTER ZHWE;
    9SMALL LETTER ZHWE;9CAPITAL LETTER CCHE;9SMALL LETTER CCHE;9CAPITAL LETTER DZZE;
    9SMALL LETTER DZZE;9CAPITAL LETTER TE WITH MIDDLE HOOK;9SMALL LETTER TE WITH MIDDLE HOOK;
    9CAPITAL LETTER TWE;9SMALL LETTER TWE;9CAPITAL LETTER TSWE;9SMALL LETTER TSWE;
    9CAPITAL LETTER TSSE;9SMALL LETTER TSSE;9CAPITAL LETTER TCHE;9SMALL LETTER TCHE;
    9CAPITAL LETTER HWE;9SMALL LETTER HWE;9CAPITAL LETTER SHWE;9SMALL LETTER SHWE;
    9CAPITAL LETTER DOUBLE O;9SMALL LETTER DOUBLE O;9CAPITAL LETTER CROSSED O;
    9SMALL LETTER CROSSED O;0MODIFIER LETTER CYRILLIC HARD SIGN;pSOFT SIGN;
    0COMBINING CYRILLIC LETTER EF;qIOTIFIED E;0BAMUM LETTER A;dKA;dU;dKU;dEE;dREE;dTAE;dO;dNYI;
    dI;dLA;dPA;dRII;fEE;dLEEEE;dMEEEE;dTAA;dNDAA;eJAEM;dM;dSUU;dMU;dSHII;eI;eHEUX;eEUX;dKYEE;
    eET;dNUAE;f;eJUAE;dYOQ;dSHU;dYUQ;eA;dNSHA;dKEUX;dPEUX;dNJEE;eTEE;dPUE;dWUE;dPEE;dFEE;dRU;
    dLU;dMI;dNI;dREUX;eAE;dKEN;dNGKWAEN;fGA;fA;dSHO;dPUAE;dFU;eOM;dWA;dNA;dLI;dPI;dLOQ;dKO;
    dMBEN;dREN;dMEN;eA;dTI;dKI;dMO;eBAA;dTET;dKPA;dTEN;dNTUU;dSAMBA;dFAAMAE;dKOVUU;fGHOM;
    6COMBINING MARK KOQNDON;lTUKWENTIS;6NJAEMLI;6FULL STOP;6COLON;8MMA;6SEMICOLON;
    6QUESTION MARK;A700=0MODIFIER LETTER CHINESE TONE YIN PING;uANG PING;uIN SHANG;uANG SHANG;
    uIN QU;uANG QU;uIN RU;uANG RU;gEXTRA-HIGH DOTTED TONE BAR;gHIGH DOTTED TONE BAR;
    gMID DOTTED TONE BAR;gLOW DOTTED TONE BAR;gEXTRA-LOW DOTTED TONE BAR;
    mHIGH DOTTED LEFT-STEM TONE BAR;gHIGH DOTTED LEFT-STEM TONE BAR;
    gMID DOTTED LEFT-STEM TONE BAR;gLOW DOTTED LEFT-STEM TONE BAR;
    gEXTRA-LOW DOTTED LEFT-STEM TONE BAR;mHIGH LEFT-STEM TONE BAR;gHIGH LEFT-STEM TONE BAR;
    gMID LEFT-STEM TONE BAR;gLOW LEFT-STEM TONE BAR;gEXTRA-LOW LEFT-STEM TONE BAR;
    gDOT VERTICAL BAR;kSLASH;kHORIZONTAL BAR;gLOWER RIGHT CORNER ANGLE;gRAISED UP ARROW;
    nDOWN ARROW;nEXCLAMATION MARK;nINVERTED EXCLAMATION MARK;gLOW INVERTED EXCLAMATION MARK;
    gSTRESS AND HIGH TONE;rLOW TONE;0LATIN CAPITAL LETTER EGYPTOLOGICAL ALEF;
    6SMALL LETTER EGYPTOLOGICAL ALEF;6CAPITAL LETTER EGYPTOLOGICAL AIN;
    6SMALL LETTER EGYPTOLOGICAL AIN;6CAPITAL LETTER HENG;6SMALL LETTER HENG;6CAPITAL LETTER TZ;
    6SMALL LETTER TZ;6CAPITAL LETTER TRESILLO;6SMALL LETTER TRESILLO;6CAPITAL LETTER CUATRILLO;
    6SMALL LETTER CUATRILLO;6CAPITAL LETTER CUATRILLO WITH COMMA;
    6SMALL LETTER CUATRILLO WITH COMMA;6LETTER SMALL CAPITAL F;rS;6CAPITAL LETTER AA;
    6SMALL LETTER AA;6CAPITAL LETTER AO;6SMALL LETTER AO;6CAPITAL LETTER AU;6SMALL LETTER AU;
    6CAPITAL LETTER AV;6SMALL LETTER AV;6CAPITAL LETTER AV WITH HORIZONTAL BAR;
    6SMALL LETTER AV WITH HORIZONTAL BAR;6CAPITAL LETTER AY;6SMALL LETTER AY;
    6CAPITAL LETTER REVERSED C WITH DOT;6SMALL LETTER REVERSED C WITH DOT;
    6CAPITAL LETTER K WITH STROKE;6SMALL LETTER K WITH STROKE;
    6CAPITAL LETTER K WITH DIAGONAL STROKE;6SMALL LETTER K WITH DIAGONAL STROKE;
    6CAPITAL LETTER K WITH STROKE AND DIAGONAL STROKE;
    6SMALL LETTER K WITH STROKE AND DIAGONAL STROKE;6CAPITAL LETTER BROKEN L;
    6SMALL LETTER BROKEN L;6CAPITAL LETTER L WITH HIGH STROKE;6SMALL LETTER L WITH HIGH STROKE;
    6CAPITAL LETTER O WITH LONG STROKE OVERLAY;6SMALL LETTER O WITH LONG STROKE OVERLAY;
    6CAPITAL LETTER O WITH LOOP;6SMALL LETTER O WITH LOOP;6CAPITAL LETTER OO;6SMALL LETTER OO;
    6CAPITAL LETTER P WITH STROKE THROUGH DESCENDER;
    6SMALL LETTER P WITH STROKE THROUGH DESCENDER;6CAPITAL LETTER P WITH FLOURISH;
    6SMALL LETTER P WITH FLOURISH;6CAPITAL LETTER P WITH SQUIRREL TAIL;
    6SMALL LETTER P WITH SQUIRREL TAIL;6CAPITAL LETTER Q WITH STROKE THROUGH DESCENDER;
    6SMALL LETTER Q WITH STROKE THROUGH DESCENDER;6CAPITAL LETTER Q WITH DIAGONAL STROKE;
    6SMALL LETTER Q WITH DIAGONAL STROKE;6CAPITAL LETTER R ROTUNDA;6SMALL LETTER R ROTUNDA;
    6CAPITAL LETTER RUM ROTUNDA;6SMALL LETTER RUM ROTUNDA;
    6CAPITAL LETTER V WITH DIAGONAL STROKE;6SMALL LETTER V WITH DIAGONAL STROKE;
    6CAPITAL LETTER VY;6SMALL LETTER VY;6CAPITAL LETTER VISIGOTHIC Z;6SMALL LETTER VISIGOTHIC Z;
    6CAPITAL LETTER THORN WITH STROKE;6SMALL LETTER THORN WITH STROKE;
    6CAPITAL LETTER THORN WITH STROKE THROUGH DESCENDER;
    6SMALL LETTER THORN WITH STROKE THROUGH DESCENDER;6CAPITAL LETTER VEND;6SMALL LETTER VEND;
    6CAPITAL LETTER ET;6SMALL LETTER ET;6CAPITAL LETTER IS;6SMALL LETTER IS;6CAPITAL LETTER CON;
    6SMALL LETTER CON;0MODIFIER LETTER US;0LATIN SMALL LETTER DUM;jLUM;jMUM;jNUM;jRUM;
    6LETTER SMALL CAPITAL RUM;6SMALL LETTER TUM;jUM;6CAPITAL LETTER INSULAR D;
    6SMALL LETTER INSULAR D;6CAPITAL LETTER INSULAR F;6SMALL LETTER INSULAR F;
    6CAPITAL LETTER INSULAR G;lTURNED INSULAR G;6SMALL LETTER TURNED INSULAR G;
    6CAPITAL LETTER TURNED L;6SMALL LETTER TURNED L;6CAPITAL LETTER INSULAR R;
    6SMALL LETTER INSULAR R;6CAPITAL LETTER INSULAR S;6SMALL LETTER INSULAR S;
    6CAPITAL LETTER INSULAR T;6SMALL LETTER INSULAR T;0MODIFIER LETTER LOW CIRCUMFLEX ACCENT;
    gCOLON;gSHORT EQUALS SIGN;0LATIN CAPITAL LETTER SALTILLO;6SMALL LETTER SALTILLO;
    6CAPITAL LETTER TURNED H;6SMALL LETTER L WITH RETROFLEX HOOK AND BELT;
    6LETTER SINOLOGICAL DOT;6CAPITAL LETTER N WITH DESCENDER;6SMALL LETTER N WITH DESCENDER;
    6CAPITAL LETTER C WITH BAR;6SMALL LETTER C WITH BAR;qPALATAL HOOK;jH WITH PALATAL HOOK;
    6CAPITAL LETTER B WITH FLOURISH;6SMALL LETTER B WITH FLOURISH;6CAPITAL LETTER F WITH STROKE;
    6SMALL LETTER F WITH STROKE;6CAPITAL LETTER VOLAPUK AE;6SMALL LETTER VOLAPUK AE;
    6CAPITAL LETTER VOLAPUK OE;6SMALL LETTER VOLAPUK OE;6CAPITAL LETTER VOLAPUK UE;
    6SMALL LETTER VOLAPUK UE;6CAPITAL LETTER G WITH OBLIQUE STROKE;
    6SMALL LETTER G WITH OBLIQUE STROKE;6CAPITAL LETTER K WITH OBLIQUE STROKE;
    6SMALL LETTER K WITH OBLIQUE STROKE;6CAPITAL LETTER N WITH OBLIQUE STROKE;
    6SMALL LETTER N WITH OBLIQUE STROKE;6CAPITAL LETTER R WITH OBLIQUE STROKE;
    6SMALL LETTER R WITH OBLIQUE STROKE;6CAPITAL LETTER S WITH OBLIQUE STROKE;
    6SMALL LETTER S WITH OBLIQUE STROKE;6CAPITAL LETTER H WITH HOOK;lREVERSED OPEN E;lSCRIPT G;
    lL WITH BELT;lSMALL CAPITAL I;6LETTER SMALL CAPITAL Q;6CAPITAL LETTER TURNED K;sT;
    lJ WITH CROSSED-TAIL;lCHI;lBETA;6SMALL LETTER BETA;6CAPITAL LETTER OMEGA;
    6SMALL LETTER OMEGA;6CAPITAL LETTER U WITH STROKE;6SMALL LETTER U WITH STROKE;
    6CAPITAL LETTER GLOTTAL A;6SMALL LETTER GLOTTAL A;6CAPITAL LETTER GLOTTAL I;
    6SMALL LETTER GLOTTAL I;6CAPITAL LETTER GLOTTAL U;6SMALL LETTER GLOTTAL U;
    6CAPITAL LETTER OLD POLISH O;6SMALL LETTER OLD POLISH O;6CAPITAL LETTER ANGLICANA W;
    6SMALL LETTER ANGLICANA W;6CAPITAL LETTER C WITH PALATAL HOOK;lS WITH HOOK;
    lZ WITH PALATAL HOOK;lD WITH SHORT STROKE OVERLAY;6SMALL LETTER D WITH SHORT STROKE OVERLAY;
    6CAPITAL LETTER S WITH SHORT STROKE OVERLAY;6SMALL LETTER S WITH SHORT STROKE OVERLAY;
    A7D0=6CAPITAL LETTER CLOSED INSULAR G;6SMALL LETTER CLOSED INSULAR G;A7D3=jDOUBLE THORN;
    A7D5=qWYNN;6CAPITAL LETTER MIDDLE SCOTS S;6SMALL LETTER MIDDLE SCOTS S;
    6CAPITAL LETTER SIGMOID S;6SMALL LETTER SIGMOID S;A7F2=0MODIFIER LETTER CAPITAL C;oF;oQ;
    0LATIN CAPITAL LETTER REVERSED HALF H;6SMALL LETTER REVERSED HALF H;
    6EPIGRAPHIC LETTER SIDEWAYS I;0MODIFIER LETTER CAPITAL H WITH STROKE;gSMALL LIGATURE OE;
    0LATIN LETTER SMALL CAPITAL TURNED M;6EPIGRAPHIC LETTER REVERSED F;xP;oINVERTED M;p LONGA;
    oARCHAIC M;0SYLOTI NAGRI LETTER A;kI;dSIGN DVISVARA;dLETTER U;kE;kO;dSIGN HASANTA;
    dLETTER KO;lHO;kGO;lHO;dSIGN ANUSVARA;dLETTER CO;lHO;kJO;lHO;kTTO;mHO;kDDO;mHO;kTO;lHO;kDO;
    lHO;kNO;kPO;lHO;kBO;lHO;kMO;kRO;kLO;kRRO;kSO;kHO;dVOWEL SIGN A;oI;oU;oE;oOO;dPOETRY MARK-1;
    p2;p3;p4;dSIGN ALTERNATE HASANTA;A830=0NORTH INDIC FRACTION ONE QUARTER;pHALF;
    lTHREE QUARTERS;lONE SIXTEENTH;pEIGHTH;lTHREE SIXTEENTHS;cQUARTER MARK;cPLACEHOLDER MARK;
    cRUPEE MARK;cQUANTITY MARK;A840=0PHAGS-PA LETTER KA;hHA;gGA;gNGA;gCA;hHA;gJA;gNYA;gTA;hHA;
    gDA;gNA;gPA;hHA;gBA;gMA;gTSA;iHA;gDZA;gWA;gZHA;hA;gSMALL A;gYA;gRA;gLA;gSHA;hA;gHA;gA;gI;gU;
    gE;gO;gQA;gXA;gFA;gGGA;gEE;9SUBJOINED LETTER WA;qYA;9LETTER TTA;iHA;gDDA;gNNA;gALTERNATE YA;
    gVOICELESS SHA;lD HA;gASPIRATED FA;9SUBJOINED LETTER RA;bPERFIXED LETTER RA;
    9LETTER CANDRABINDU;9SINGLE HEAD MARK;9DOUBLE HEAD MARK;9MARK SHAD;eDOUBLE SHAD;
    A880=0SAURASHTRA SIGN ANUSVARA;gVISARGA;bLETTER A;jA;iI;jI;iU;jU;iVOCALIC R;rR;qL;rL;iE;jE;
    iAI;iO;jO;iAU;iKA;jHA;iGA;jHA;iNGA;iCA;jHA;iJA;jHA;iNYA;iTTA;kHA;iDDA;kHA;iNNA;iTA;jHA;iDA;
    jHA;iNA;iPA;jHA;iBA;jHA;iMA;iYA;iRA;iLA;iVA;iSHA;jSA;jA;iHA;iLLA;bCONSONANT SIGN HAARU;
    bVOWEL SIGN AA;mI;nI;mU;nU;mVOCALIC R;vR;uL;vL;mE;nE;mAI;mO;nO;mAU;bSIGN VIRAMA;
    gCANDRABINDU;A8CE=bDANDA;cOUBLE DANDA;cIGIT ZERO;hONE;hTWO;iHREE;hFOUR;iIVE;hSIX;iEVEN;
    hEIGHT;hNINE;A8E0=0COMBINING DEVANAGARI DIGIT ZERO;rONE;rTWO;sHREE;rFOUR;sIVE;rSIX;sEVEN;
    rEIGHT;rNINE;lLETTER A;sU;sKA;sNA;sPA;sRA;sVI;lSIGN AVAGRAHA;
    0DEVANAGARI SIGN SPACING CANDRABINDU;gCANDRABINDU VIRAMA;gDOUBLE CANDRABINDU VIRAMA;
    gCANDRABINDU TWO;tHREE;sAVAGRAHA;gPUSHPIKA;bGAP FILLER;bCARET;bHEADSTROKE;bSIGN SIDDHAM;
    bJAIN OM;bLETTER AY;bVOWEL SIGN AY;0KAYAH LI DIGIT ZERO;fONE;fTWO;gHREE;fFOUR;gIVE;fSIX;
    gEVEN;fEIGHT;fNINE;9LETTER KA;hHA;gGA;gNGA;gSA;hHA;gZA;gNYA;gTA;gHTA;gNA;gPA;hHA;gMA;gDA;
    gBA;gRA;gYA;gLA;gWA;gTHA;gHA;gVA;gCA;gA;gOE;gI;gOO;9VOWEL UE;fE;fU;fEE;fO;9TONE PLOPHU;
    eCALYA;j PLOPHU;9SIGN CWI;eSHYA;0REJANG LETTER KA;eGA;eNGA;eTA;eDA;eNA;ePA;eBA;eMA;eCA;eJA;
    eNYA;eSA;eRA;eLA;eYA;eWA;eHA;eMBA;eNGGA;fDA;fYJA;eA;7VOWEL SIGN I;iU;iE;iAI;iO;iAU;iEU;jA;
    7CONSONANT SIGN NG;n;mR;mH;7VIRAMA;A95F=7SECTION MARK;0HANGUL CHOSEONG TIKEUT-MIEUM;nPIEUP;
    nSIOS;nCIEUC;gRIEUL-KIYEOK;mSSANGKIYEOK;mTIKEUT;mSSANGTIKEUT;mMIEUM;mPIEUP;mSSANGPIEUP;
    mKAPYEOUNPIEUP;mSIOS;mCIEUC;mKHIEUKH;gMIEUM-KIYEOK;mTIKEUT;mSIOS;gPIEUP-SIOS-THIEUTH;
    mKHIEUKH;mHIEUH;gSSANGSIOS-PIEUP;gIEUNG-RIEUL;mHIEUH;gSSANGCIEUC-HIEUH;lTHIEUTH;
    gPHIEUPH-HIEUH;gHIEUH-SIOS;gSSANGYEORINHIEUH;A980=0JAVANESE SIGN PANYANGGA;eCECAK;eLAYAR;
    eWIGNYAN;9LETTER A;gI KAWI;h;hI;gU;gPA CEREK;gNGA LELET;p RASWADI;gE;gAI;gO;gKA;i SASAK;
    jMURDA;gGA;i MURDA;gNGA;gCA;i MURDA;gJA;gNYA MURDA;gJA MAHAPRANA;gNYA;gTTA;j MAHAPRANA;gDDA;
    j MAHAPRANA;gNA MURDA;gTA;i MURDA;gDA;i MAHAPRANA;gNA;gPA;i MURDA;gBA;i MURDA;gMA;gYA;gRA;
    i AGUNG;gLA;gWA;gSA MURDA;kAHAPRANA;i;gHA;9SIGN CECAK TELU;9VOWEL SIGN TARUNG;lOLONG;kWULU;
    o MELIK;kSUKU;o MENDUT;kTALING;kDIRGA MURE;kPEPET;9CONSONANT SIGN KERET;oPENGKAL;oCAKRA;
    9PANGKON;9LEFT RERENGGAN;9RIGHT RERENGGAN;9PADA ANDAP;eMADYA;eLUHUR;eWINDU;ePANGKAT;eLINGSA;
    fUNGSI;eADEG;i ADEG;ePISELEH;9TURNED PADA PISELEH;A9CF=9PANGRANGKEP;9DIGIT ZERO;fONE;fTWO;
    gHREE;fFOUR;gIVE;fSIX;gEVEN;fEIGHT;fNINE;A9DE=9PADA TIRTA TUMETES;eISEN-ISEN;
    0MYANMAR LETTER SHAN GHA;kCHA;kJHA;kNNA;kBHA;8SIGN SHAN SAW;
    8MODIFIER LETTER SHAN REDUPLICATION;8LETTER TAI LAING NYA;pFA;pGA;qHA;pJA;qHA;pDDA;rHA;pNNA;
    8TAI LAING DIGIT ZERO;oONE;oTWO;pHREE;oFOUR;pIVE;oSIX;pEVEN;oEIGHT;oNINE;
    8LETTER TAI LAING LLA;pDA;qHA;pBA;qHA;AA00=0CHAM LETTER A;cI;cU;cE;cAI;cO;cKA;dHA;cGA;dHA;
    cNGUE;eA;cCHA;eHA;cJA;dHA;cNHUE;eA;eJA;cTA;dHA;cDA;dHA;cNUE;dA;cDDA;cPA;dPA;dHA;cBA;dHA;
    cMUE;dA;cBBA;cYA;cRA;cLA;cVA;cSSA;dA;cHA;5VOWEL SIGN AA;gI;hI;gEI;gU;gOE;h;gAI;hU;gUE;
    5CONSONANT SIGN YA;kRA;kLA;kWA;AA40=5LETTER FINAL K;iG;iNG;5CONSONANT SIGN FINAL NG;
    5LETTER FINAL CH;iT;iN;iP;iY;iR;iL;iSS;5CONSONANT SIGN FINAL M;qH;AA50=5DIGIT ZERO;bONE;
    bTWO;cHREE;bFOUR;cIVE;bSIX;cEVEN;bEIGHT;bNINE;AA5C=5PUNCTUATION SPIRAL;hDANDA;iOUBLE DANDA;
    hTRIPLE DANDA;0MYANMAR LETTER KHAMTI GA;mCA;nHA;mJA;nHA;mNYA;mTTA;oHA;mDDA;oHA;nHA;mNA;mSA;
    mHA;nHA;mFA;8MODIFIER LETTER KHAMTI REDUPLICATION;8LETTER KHAMTI XA;mZA;mRA;
    9OGOGRAM KHAMTI OAY;oQN;oHM;8SYMBOL AITON EXCLAMATION;lONE;lTWO;8LETTER AITON RA;
    8SIGN PAO KAREN TONE;dTAI LAING TONE-2;s5;8LETTER SHWE PALAUNG CHA;sSHA;
    0TAI VIET LETTER LOW KO;gHIGH KO;gLOW KHO;gHIGH KHO;gLOW KHHO;gHIGH KHHO;gLOW GO;gHIGH GO;
    gLOW NGO;gHIGH NGO;gLOW CO;gHIGH CO;gLOW CHO;gHIGH CHO;gLOW SO;gHIGH SO;gLOW NYO;gHIGH NYO;
    gLOW DO;gHIGH DO;gLOW TO;gHIGH TO;gLOW THO;gHIGH THO;gLOW NO;gHIGH NO;gLOW BO;gHIGH BO;
    gLOW PO;gHIGH PO;gLOW PHO;gHIGH PHO;gLOW FO;gHIGH FO;gLOW MO;gHIGH MO;gLOW YO;gHIGH YO;
    gLOW RO;gHIGH RO;gLOW LO;gHIGH LO;gLOW VO;gHIGH VO;gLOW HO;gHIGH HO;gLOW O;gHIGH O;
    9MAI KANG;9VOWEL AA;fI;fUE;g;fE;fO;9MAI KHIT;9VOWEL IA;fUEA;gA;fAUE;gY;gN;gM;9TONE MAI EK;
    iNUENG;iTHO;iSONG;AADB=9SYMBOL KON;gNUENG;gSAM;gHO HOI;gKOI KOI;0MEETEI MAYEK LETTER E;kO;
    kCHA;kNYA;kTTA;mHA;kDDA;mHA;kNNA;kSHA;lSA;dVOWEL SIGN II;oUU;oAAI;pU;pAU;dCHEIKHAN;
    dAHANG KHUDAM;eNJI;dSYLLABLE REPETITION MARK;dWORD REPETITION MARK;dVOWEL SIGN VISARGA;
    eIRAMA;AB01=0ETHIOPIC SYLLABLE TTHU;lI;lAA;lEE;m;lO;AB09=iDDHU;lI;lAA;lEE;m;lO;AB11=jZU;kI;
    kAA;kEE;l;kO;AB20=iCCHHA;mU;mI;mAA;mEE;n;mO;AB28=iBBA;kU;kI;kAA;kEE;l;kO;
    AB30=0LATIN SMALL LETTER BARRED ALPHA;jA REVERSED-SCHWA;jBLACKLETTER E;kARRED E;
    jE WITH FLOURISH;jLENIS F;jSCRIPT G WITH CROSSED-TAIL;jL WITH INVERTED LAZY S;
    qDOUBLE MIDDLE TILDE;qMIDDLE RING;jM WITH CROSSED-TAIL;jN WITH CROSSED-TAIL;
    jENG WITH CROSSED-TAIL;jBLACKLETTER O;w WITH STROKE;jOPEN O WITH STROKE;jINVERTED OE;
    jTURNED OE WITH STROKE;yHORIZONTAL STROKE;r OPEN-O;y WITH STROKE;jSTIRRUP R;
    6LETTER SMALL CAPITAL R WITH RIGHT LEG;6SMALL LETTER R WITHOUT HANDLE;jDOUBLE R;
    jR WITH CROSSED-TAIL;jDOUBLE R WITH CROSSED-TAIL;jSCRIPT R;r WITH RING;jBASELINE ESH;
    jU WITH SHORT RIGHT LEG;lBAR WITH SHORT RIGHT LEG;kI;jTURNED UI;jU WITH LEFT HOOK;jCHI;
    m WITH LOW RIGHT RING;wLEFT SERIF;jX WITH LOW RIGHT RING;sNG LEFT LEG;D AND LOW RIGHT RING;
    EWITH SERIF;jY WITH SHORT RIGHT LEG;0MODIFIER BREVE WITH INVERTED BREVE;9LETTER SMALL HENG;
    mL WITH INVERTED LAZY S;tMIDDLE TILDE;mU WITH LEFT HOOK;0LATIN SMALL LETTER SAKHA YAT;
    jIOTIFIED E;jOPEN OE;jUO;jINVERTED ALPHA;0GREEK LETTER SMALL CAPITAL OMEGA;
    0LATIN SMALL LETTER DZ DIGRAPH WITH RETROFLEX HOOK;jTS DIGRAPH WITH RETROFLEX HOOK;
    kURNED R WITH MIDDLE TILDE;0MODIFIER LETTER SMALL TURNED W;gLEFT TACK;gRIGHT TACK;
    AB70=0CHEROKEE SMALL LETTER A;mE;mI;mO;mU;mV;mGA;mKA;mGE;nI;nO;nU;nV;mHA;nE;nI;nO;nU;nV;mLA;
    nE;nI;nO;nU;nV;mMA;nE;nI;nO;nU;mNA;mHNA;mNAH;nE;nI;nO;nU;nV;mQUA;oE;oI;oO;oU;oV;mSA;n;nE;nI;
    nO;nU;nV;mDA;mTA;mDE;mTE;mDI;mTI;mDO;nU;nV;nLA;mTLA;oE;oI;oO;oU;oV;nSA;oE;oI;oO;oU;oV;mWA;
    nE;nI;nO;nU;nV;mYA;0MEETEI MAYEK LETTER KOK;kSAM;kLAI;kMIT;kPA;kNA;kCHIL;kTIL;kKHOU;kNGOU;
    kTHOU;kWAI;kYANG;kHUK;kUN;kI;kPHAM;kATIYA;kGOK;kJHAM;kRAI;kBA;kJIL;kDIL;kGHOU;kDHOU;kBHAM;
    kKOK LONSUM;kLAI LONSUM;kMIT LONSUM;kPA LONSUM;kNA LONSUM;kTIL LONSUM;kNGOU LONSUM;
    kI LONSUM;dVOWEL SIGN ONAP;oINAP;oANAP;oYENAP;oSOUNAP;oUNAP;oCHEINAP;oNUNG;dCHEIKHEI;
    dLUM IYEK;dAPUN IYEK;ABF0=dDIGIT ZERO;jONE;jTWO;kHREE;jFOUR;kIVE;jSIX;kEVEN;jEIGHT;jNINE;
    D7B0=0HANGUL JUNGSEONG O-YEO;jO-I;hYO-A;lE;kEO;hU-YEO;jI-I;hYU-AE;kO;hEU-A;kEO;l;kO;hI-YA-O;
    lE;kEO;l;jO-I;jYO;kU;jI;hARAEA-A;nE;D7CB=8ONGSEONG NIEUN-RIEUL;nCHIEUCH;hSSANGTIKEUT;
    s-PIEUP;hTIKEUT-PIEUP;oSIOS;s-KIYEOK;oCIEUC;pHIEUCH;oTHIEUTH;hRIEUL-SSANGKIYEOK;
    nKIYEOK-HIEUH;hSSANGRIEUL-KHIEUKH;hRIEUL-MIEUM-HIEUH;nPIEUP-TIKEUT;tPHIEUPH;nYESIEUNG;
    pORINHIEUH-HIEUH;hKAPYEOUNRIEUL;hMIEUM-NIEUN;nSSANGNIEUN;hSSANGMIEUM;hMIEUM-PIEUP-SIOS;
    nCIEUC;hPIEUP-TIKEUT;nRIEUL-PHIEUPH;nMIEUM;hSSANGPIEUP;hPIEUP-SIOS-TIKEUT;nCIEUC;oHIEUCH;
    hSIOS-MIEUM;mKAPYEOUNPIEUP;iSANGSIOS-KIYEOK;rTIKEUT;iIOS-PANSIOS;mCIEUC;nHIEUCH;mTHIEUTH;
    mHIEUH;hPANSIOS-PIEUP;pKAPYEOUNPIEUP;hYESIEUNG-MIEUM;qHIEUH;hCIEUC-PIEUP;nSSANGPIEUP;
    hSSANGCIEUC;hPHIEUPH-SIOS;pTHIEUTH;F900=0CJK COMPATIBILITY IDEOGRAPH-F900;v1;v2;v3;v4;v5;v6;
    v7;v8;v9;vA;vB;vC;vD;vE;vF;u10;v1;v2;v3;v4;v5;v6;v7;v8;v9;vA;vB;vC;vD;vE;vF;u20;v1;v2;v3;v4;
    v5;v6;v7;v8;v9;vA;vB;vC;vD;vE;vF;u30;v1;v2;v3;v4;v5;v6;v7;v8;v9;vA;vB;vC;vD;vE;vF;u40;v1;v2;
    v3;v4;v5;v6;v7;v8;v9;vA;vB;vC;vD;vE;vF;u50;v1;v2;v3;v4;v5;v6;v7;v8;v9;vA;vB;vC;vD;vE;vF;u60;
    v1;v2;v3;v4;v5;v6;v7;v8;v9;vA;vB;vC;vD;vE;vF;u70;v1;v2;v3;v4;v5;v6;v7;v8;v9;vA;vB;vC;vD;vE;
    vF;u80;v1;v2;v3;v4;v5;v6;v7;v8;v9;vA;vB;vC;vD;vE;vF;u90;v1;v2;v3;v4;v5;v6;v7;v8;v9;vA;vB;vC;
    vD;vE;vF;uA0;v1;v2;v3;v4;v5;v6;v7;v8;v9;vA;vB;vC;vD;vE;vF;uB0;v1;v2;v3;v4;v5;v6;v7;v8;v9;vA;
    vB;vC;vD;vE;vF;uC0;v1;v2;v3;v4;v5;v6;v7;v8;v9;vA;vB;vC;vD;vE;vF;uD0;v1;v2;v3;v4;v5;v6;v7;v8;
    v9;vA;vB;vC;vD;vE;vF;uE0;v1;v2;v3;v4;v5;v6;v7;v8;v9;vA;vB;vC;vD;vE;vF;uF0;v1;v2;v3;v4;v5;v6;
    v7;v8;v9;vA;vB;vC;vD;vE;vF;tA00;v1;v2;v3;v4;v5;v6;v7;v8;v9;vA;vB;vC;vD;vE;vF;u10;v1;v2;v3;
    v4;v5;v6;v7;v8;v9;vA;vB;vC;vD;vE;vF;u20;v1;v2;v3;v4;v5;v6;v7;v8;v9;vA;vB;vC;vD;vE;vF;u30;v1;
    v2;v3;v4;v5;v6;v7;v8;v9;vA;vB;vC;vD;vE;vF;u40;v1;v2;v3;v4;v5;v6;v7;v8;v9;vA;vB;vC;vD;vE;vF;
    u50;v1;v2;v3;v4;v5;v6;v7;v8;v9;vA;vB;vC;vD;vE;vF;u60;v1;v2;v3;v4;v5;v6;v7;v8;v9;vA;vB;vC;vD;
    FA70=u70;v1;v2;v3;v4;v5;v6;v7;v8;v9;vA;vB;vC;vD;vE;vF;u80;v1;v2;v3;v4;v5;v6;v7;v8;v9;vA;vB;
    vC;vD;vE;vF;u90;v1;v2;v3;v4;v5;v6;v7;v8;v9;vA;vB;vC;vD;vE;vF;uA0;v1;v2;v3;v4;v5;v6;v7;v8;v9;
    vA;vB;vC;vD;vE;vF;uB0;v1;v2;v3;v4;v5;v6;v7;v8;v9;vA;vB;vC;vD;vE;vF;uC0;v1;v2;v3;v4;v5;v6;v7;
    v8;v9;vA;vB;vC;vD;vE;vF;uD0;v1;v2;v3;v4;v5;v6;v7;v8;v9;FB00=0LATIN SMALL LIGATURE FF;mI;mL;
    mFI;nL;lLONG S T;lST;FB13=0ARMENIAN SMALL LIGATURE MEN NOW;sECH;sINI;oVEW NOW;oMEN XEH;
    FB1D=0HEBREW LETTER YOD WITH HIRIQ;7POINT JUDEO-SPANISH VARIKA;
    7LIGATURE YIDDISH YOD YOD PATAH;8ETTER ALTERNATIVE AYIN;eWIDE ALEF;jDALET;jHE;jKAF;jLAMED;
    jFINAL MEM;jRESH;jTAV;eALTERNATIVE PLUS SIGN;eSHIN WITH SHIN DOT;pIN DOT;
    oDAGESH AND SHIN DOT;AIN DOT;eALEF WITH PATAH;oQAMATS;oMAPIQ;eBET WITH DAGESH;
    eGIMEL WITH DAGESH;eDALET WITH DAGESH;eHE WITH MAPIQ;eVAV WITH DAGESH;eZAYIN WITH DAGESH;
    FB38=eTET WITH DAGESH;eYOD WITH DAGESH;eFINAL KAF WITH DAGESH;eKAF WITH DAGESH;
    eLAMED WITH DAGESH;FB3E=eMEM WITH DAGESH;FB40=eNUN WITH DAGESH;eSAMEKH WITH DAGESH;
    FB43=eFINAL PE WITH DAGESH;ePE WITH DAGESH;FB46=eTSADI WITH DAGESH;eQOF WITH DAGESH;
    eRESH WITH DAGESH;eSHIN WITH DAGESH;eTAV WITH DAGESH;eVAV WITH HOLAM;eBET WITH RAFE;
    eKAF WITH RAFE;ePE WITH RAFE;8IGATURE ALEF LAMED;0ARABIC LETTER ALEF WASLA ISOLATED FORM;
    pFINAL FORM;eBEEH ISOLATED FORM;jFINAL FORM;jINITIAL FORM;jMEDIAL FORM;ePEH ISOLATED FORM;
    iFINAL FORM;iINITIAL FORM;iMEDIAL FORM;eBEHEH ISOLATED FORM;kFINAL FORM;kINITIAL FORM;
    kMEDIAL FORM;eTTEHEH ISOLATED FORM;lFINAL FORM;lINITIAL FORM;lMEDIAL FORM;
    fEHEH ISOLATED FORM;kFINAL FORM;kINITIAL FORM;kMEDIAL FORM;fTEH ISOLATED FORM;jFINAL FORM;
    jINITIAL FORM;jMEDIAL FORM;eVEH ISOLATED FORM;iFINAL FORM;iINITIAL FORM;iMEDIAL FORM;
    ePEHEH ISOLATED FORM;kFINAL FORM;kINITIAL FORM;kMEDIAL FORM;eDYEH ISOLATED FORM;jFINAL FORM;
    jINITIAL FORM;jMEDIAL FORM;eNYEH ISOLATED FORM;jFINAL FORM;jINITIAL FORM;jMEDIAL FORM;
    eTCHEH ISOLATED FORM;kFINAL FORM;kINITIAL FORM;kMEDIAL FORM;jEH ISOLATED FORM;mFINAL FORM;
    mINITIAL FORM;mMEDIAL FORM;eDDAHAL ISOLATED FORM;lFINAL FORM;fAHAL ISOLATED FORM;
    kFINAL FORM;fUL ISOLATED FORM;iFINAL FORM;fDAL ISOLATED FORM;jFINAL FORM;eJEH ISOLATED FORM;
    iFINAL FORM;eRREH ISOLATED FORM;jFINAL FORM;eKEHEH ISOLATED FORM;kFINAL FORM;kINITIAL FORM;
    kMEDIAL FORM;eGAF ISOLATED FORM;iFINAL FORM;iINITIAL FORM;iMEDIAL FORM;fUEH ISOLATED FORM;
    jFINAL FORM;jINITIAL FORM;jMEDIAL FORM;eNGOEH ISOLATED FORM;kFINAL FORM;kINITIAL FORM;
    kMEDIAL FORM;fOON GHUNNA ISOLATED FORM;qFINAL FORM;eRNOON ISOLATED FORM;kFINAL FORM;
    kINITIAL FORM;kMEDIAL FORM;eHEH WITH YEH ABOVE ISOLATED FORM;xFINAL FORM;
    iGOAL ISOLATED FORM;nFINAL FORM;nINITIAL FORM;nMEDIAL FORM;iDOACHASHMEE ISOLATED FORM;
    uFINAL FORM;uINITIAL FORM;uMEDIAL FORM;eYEH BARREE ISOLATED FORM;pFINAL FORM;
    pWITH HAMZA ABOVE ISOLATED FORM;GFINAL FORM;7SYMBOL DOT ABOVE;iBELOW;eTWO DOTS ABOVE;nBELOW;
    fHREE DOTS ABOVE;pBELOW;pPOINTING DOWNWARDS ABOVE;IBELOW;eFOUR DOTS ABOVE;oBELOW;
    eDOUBLE VERTICAL BAR BELOW;eTWO DOTS VERTICALLY ABOVE;yBELOW;eRING;eSMALL TAH ABOVE;oBELOW;
    eWASLA ABOVE;FBD3=7LETTER NG ISOLATED FORM;hFINAL FORM;hINITIAL FORM;hMEDIAL FORM;
    eU ISOLATED FORM;gFINAL FORM;eOE ISOLATED FORM;hFINAL FORM;eYU ISOLATED FORM;hFINAL FORM;
    eU WITH HAMZA ABOVE ISOLATED FORM;eVE ISOLATED FORM;hFINAL FORM;eKIRGHIZ OE ISOLATED FORM;
    pFINAL FORM;mYU ISOLATED FORM;pFINAL FORM;eE ISOLATED FORM;gFINAL FORM;gINITIAL FORM;
    gMEDIAL FORM;eUIGHUR KAZAKH KIRGHIZ ALEF MAKSURA INITIAL FORM;NMEDIAL FORM;
    8IGATURE YEH WITH HAMZA ABOVE WITH ALEF ISOLATED FORM;LFINAL FORM;HE ISOLATED FORM;
    JFINAL FORM;GWAW ISOLATED FORM;KFINAL FORM;GU ISOLATED FORM;IFINAL FORM;GOE ISOLATED FORM;
    JFINAL FORM;GYU ISOLATED FORM;JFINAL FORM;GE ISOLATED FORM;IFINAL FORM;IINITIAL FORM;
    gUIGHUR KIRGHIZ YEH WITH HAMZA ABOVE WITH ALEF MAKSURA ISOLATED FORM;Z MAKSURA FINAL FORM;
    Z MAKSURA INITIAL FORM;8ETTER FARSI YEH ISOLATED FORM;oFINAL FORM;oINITIAL FORM;
    oMEDIAL FORM;8IGATURE YEH WITH HAMZA ABOVE WITH JEEM ISOLATED FORM;GHAH ISOLATED FORM;
    GMEEM ISOLATED FORM;GALEF MAKSURA ISOLATED FORM;GYEH ISOLATED FORM;
    gBEH WITH JEEM ISOLATED FORM;pHAH ISOLATED FORM;pKHAH ISOLATED FORM;pMEEM ISOLATED FORM;
    pALEF MAKSURA ISOLATED FORM;pYEH ISOLATED FORM;gTEH WITH JEEM ISOLATED FORM;
    pHAH ISOLATED FORM;pKHAH ISOLATED FORM;pMEEM ISOLATED FORM;pALEF MAKSURA ISOLATED FORM;
    pYEH ISOLATED FORM;hHEH WITH JEEM ISOLATED FORM;qMEEM ISOLATED FORM;
    qALEF MAKSURA ISOLATED FORM;qYEH ISOLATED FORM;gJEEM WITH HAH ISOLATED FORM;
    qMEEM ISOLATED FORM;gHAH WITH JEEM ISOLATED FORM;pMEEM ISOLATED FORM;
    gKHAH WITH JEEM ISOLATED FORM;qHAH ISOLATED FORM;qMEEM ISOLATED FORM;
    gSEEN WITH JEEM ISOLATED FORM;qHAH ISOLATED FORM;qKHAH ISOLATED FORM;qMEEM ISOLATED FORM;
    hAD WITH HAH ISOLATED FORM;pMEEM ISOLATED FORM;gDAD WITH JEEM ISOLATED FORM;
    pHAH ISOLATED FORM;pKHAH ISOLATED FORM;pMEEM ISOLATED FORM;gTAH WITH HAH ISOLATED FORM;
    pMEEM ISOLATED FORM;gZAH WITH MEEM ISOLATED FORM;gAIN WITH JEEM ISOLATED FORM;
    pMEEM ISOLATED FORM;gGHAIN WITH JEEM ISOLATED FORM;rMEEM ISOLATED FORM;
    gFEH WITH JEEM ISOLATED FORM;pHAH ISOLATED FORM;pKHAH ISOLATED FORM;pMEEM ISOLATED FORM;
    pALEF MAKSURA ISOLATED FORM;pYEH ISOLATED FORM;gQAF WITH HAH ISOLATED FORM;
    pMEEM ISOLATED FORM;pALEF MAKSURA ISOLATED FORM;pYEH ISOLATED FORM;
    gKAF WITH ALEF ISOLATED FORM;pJEEM ISOLATED FORM;pHAH ISOLATED FORM;pKHAH ISOLATED FORM;
    pLAM ISOLATED FORM;pMEEM ISOLATED FORM;pALEF MAKSURA ISOLATED FORM;pYEH ISOLATED FORM;
    gLAM WITH JEEM ISOLATED FORM;pHAH ISOLATED FORM;pKHAH ISOLATED FORM;pMEEM ISOLATED FORM;
    pALEF MAKSURA ISOLATED FORM;pYEH ISOLATED FORM;gMEEM WITH JEEM ISOLATED FORM;
    qHAH ISOLATED FORM;qKHAH ISOLATED FORM;qMEEM ISOLATED FORM;qALEF MAKSURA ISOLATED FORM;
    qYEH ISOLATED FORM;gNOON WITH JEEM ISOLATED FORM;qHAH ISOLATED FORM;qKHAH ISOLATED FORM;
    qMEEM ISOLATED FORM;qALEF MAKSURA ISOLATED FORM;qYEH ISOLATED FORM;
    gHEH WITH JEEM ISOLATED FORM;pMEEM ISOLATED FORM;pALEF MAKSURA ISOLATED FORM;
    pYEH ISOLATED FORM;gYEH WITH JEEM ISOLATED FORM;pHAH ISOLATED FORM;pKHAH ISOLATED FORM;
    pMEEM ISOLATED FORM;pALEF MAKSURA ISOLATED FORM;pYEH ISOLATED FORM;
    gTHAL WITH SUPERSCRIPT ALEF ISOLATED FORM;gREH WITH SUPERSCRIPT ALEF ISOLATED FORM;
    gALEF MAKSURA WITH SUPERSCRIPT ALEF ISOLATED FORM;gSHADDA WITH DAMMATAN ISOLATED FORM;
    sKASRATAN ISOLATED FORM;sFATHA ISOLATED FORM;sDAMMA ISOLATED FORM;sKASRA ISOLATED FORM;
    sSUPERSCRIPT ALEF ISOLATED FORM;gYEH WITH HAMZA ABOVE WITH REH FINAL FORM;GZAIN FINAL FORM;
    GMEEM FINAL FORM;GNOON FINAL FORM;GALEF MAKSURA FINAL FORM;GYEH FINAL FORM;
    gBEH WITH REH FINAL FORM;pZAIN FINAL FORM;pMEEM FINAL FORM;pNOON FINAL FORM;
    pALEF MAKSURA FINAL FORM;pYEH FINAL FORM;gTEH WITH REH FINAL FORM;pZAIN FINAL FORM;
    pMEEM FINAL FORM;pNOON FINAL FORM;pALEF MAKSURA FINAL FORM;pYEH FINAL FORM;
    hHEH WITH REH FINAL FORM;qZAIN FINAL FORM;qMEEM FINAL FORM;qNOON FINAL FORM;
    qALEF MAKSURA FINAL FORM;qYEH FINAL FORM;gFEH WITH ALEF MAKSURA FINAL FORM;pYEH FINAL FORM;
    gQAF WITH ALEF MAKSURA FINAL FORM;pYEH FINAL FORM;gKAF WITH ALEF FINAL FORM;pLAM FINAL FORM;
    pMEEM FINAL FORM;pALEF MAKSURA FINAL FORM;pYEH FINAL FORM;gLAM WITH MEEM FINAL FORM;
    pALEF MAKSURA FINAL FORM;pYEH FINAL FORM;gMEEM WITH ALEF FINAL FORM;qMEEM FINAL FORM;
    gNOON WITH REH FINAL FORM;qZAIN FINAL FORM;qMEEM FINAL FORM;qNOON FINAL FORM;
    qALEF MAKSURA FINAL FORM;qYEH FINAL FORM;gALEF MAKSURA WITH SUPERSCRIPT ALEF FINAL FORM;
    gYEH WITH REH FINAL FORM;pZAIN FINAL FORM;pMEEM FINAL FORM;pNOON FINAL FORM;
    pALEF MAKSURA FINAL FORM;pYEH FINAL FORM;pHAMZA ABOVE WITH JEEM INITIAL FORM;
    GHAH INITIAL FORM;GKHAH INITIAL FORM;GMEEM INITIAL FORM;GHEH INITIAL FORM;
    gBEH WITH JEEM INITIAL FORM;pHAH INITIAL FORM;pKHAH INITIAL FORM;pMEEM INITIAL FORM;
    pHEH INITIAL FORM;gTEH WITH JEEM INITIAL FORM;pHAH INITIAL FORM;pKHAH INITIAL FORM;
    pMEEM INITIAL FORM;pHEH INITIAL FORM;hHEH WITH MEEM INITIAL FORM;
    gJEEM WITH HAH INITIAL FORM;qMEEM INITIAL FORM;gHAH WITH JEEM INITIAL FORM;
    pMEEM INITIAL FORM;gKHAH WITH JEEM INITIAL FORM;qMEEM INITIAL FORM;
    gSEEN WITH JEEM INITIAL FORM;qHAH INITIAL FORM;qKHAH INITIAL FORM;qMEEM INITIAL FORM;
    hAD WITH HAH INITIAL FORM;pKHAH INITIAL FORM;pMEEM INITIAL FORM;gDAD WITH JEEM INITIAL FORM;
    pHAH INITIAL FORM;pKHAH INITIAL FORM;pMEEM INITIAL FORM;gTAH WITH HAH INITIAL FORM;
    gZAH WITH MEEM INITIAL FORM;gAIN WITH JEEM INITIAL FORM;pMEEM INITIAL FORM;
    gGHAIN WITH JEEM INITIAL FORM;rMEEM INITIAL FORM;gFEH WITH JEEM INITIAL FORM;
    pHAH INITIAL FORM;pKHAH INITIAL FORM;pMEEM INITIAL FORM;gQAF WITH HAH INITIAL FORM;
    pMEEM INITIAL FORM;gKAF WITH JEEM INITIAL FORM;pHAH INITIAL FORM;pKHAH INITIAL FORM;
    pLAM INITIAL FORM;pMEEM INITIAL FORM;gLAM WITH JEEM INITIAL FORM;pHAH INITIAL FORM;
    pKHAH INITIAL FORM;pMEEM INITIAL FORM;pHEH INITIAL FORM;gMEEM WITH JEEM INITIAL FORM;
    qHAH INITIAL FORM;qKHAH INITIAL FORM;qMEEM INITIAL FORM;gNOON WITH JEEM INITIAL FORM;
    qHAH INITIAL FORM;qKHAH INITIAL FORM;qMEEM INITIAL FORM;qHEH INITIAL FORM;
    gHEH WITH JEEM INITIAL FORM;pMEEM INITIAL FORM;pSUPERSCRIPT ALEF INITIAL FORM;
    gYEH WITH JEEM INITIAL FORM;pHAH INITIAL FORM;pKHAH INITIAL FORM;pMEEM INITIAL FORM;
    pHEH INITIAL FORM;qAMZA ABOVE WITH MEEM MEDIAL FORM;GHEH MEDIAL FORM;
    gBEH WITH MEEM MEDIAL FORM;pHEH MEDIAL FORM;gTEH WITH MEEM MEDIAL FORM;pHEH MEDIAL FORM;
    hHEH WITH MEEM MEDIAL FORM;qHEH MEDIAL FORM;gSEEN WITH MEEM MEDIAL FORM;qHEH MEDIAL FORM;
    hHEEN WITH MEEM MEDIAL FORM;rHEH MEDIAL FORM;gKAF WITH LAM MEDIAL FORM;pMEEM MEDIAL FORM;
    gLAM WITH MEEM MEDIAL FORM;gNOON WITH MEEM MEDIAL FORM;qHEH MEDIAL FORM;
    gYEH WITH MEEM MEDIAL FORM;pHEH MEDIAL FORM;gSHADDA WITH FATHA MEDIAL FORM;
    sDAMMA MEDIAL FORM;sKASRA MEDIAL FORM;gTAH WITH ALEF MAKSURA ISOLATED FORM;
    pYEH ISOLATED FORM;gAIN WITH ALEF MAKSURA ISOLATED FORM;pYEH ISOLATED FORM;
    gGHAIN WITH ALEF MAKSURA ISOLATED FORM;rYEH ISOLATED FORM;
    gSEEN WITH ALEF MAKSURA ISOLATED FORM;qYEH ISOLATED FORM;
    hHEEN WITH ALEF MAKSURA ISOLATED FORM;rYEH ISOLATED FORM;
    gHAH WITH ALEF MAKSURA ISOLATED FORM;pYEH ISOLATED FORM;
    gJEEM WITH ALEF MAKSURA ISOLATED FORM;qYEH ISOLATED FORM;
    gKHAH WITH ALEF MAKSURA ISOLATED FORM;qYEH ISOLATED FORM;
    gSAD WITH ALEF MAKSURA ISOLATED FORM;pYEH ISOLATED FORM;
    gDAD WITH ALEF MAKSURA ISOLATED FORM;pYEH ISOLATED FORM;gSHEEN WITH JEEM ISOLATED FORM;
    rHAH ISOLATED FORM;rKHAH ISOLATED FORM;rMEEM ISOLATED FORM;rREH ISOLATED FORM;
    hEEN WITH REH ISOLATED FORM;hAD WITH REH ISOLATED FORM;gDAD WITH REH ISOLATED FORM;
    gTAH WITH ALEF MAKSURA FINAL FORM;pYEH FINAL FORM;gAIN WITH ALEF MAKSURA FINAL FORM;
    pYEH FINAL FORM;gGHAIN WITH ALEF MAKSURA FINAL FORM;rYEH FINAL FORM;
    gSEEN WITH ALEF MAKSURA FINAL FORM;qYEH FINAL FORM;hHEEN WITH ALEF MAKSURA FINAL FORM;
    rYEH FINAL FORM;gHAH WITH ALEF MAKSURA FINAL FORM;pYEH FINAL FORM;
    gJEEM WITH ALEF MAKSURA FINAL FORM;qYEH FINAL FORM;gKHAH WITH ALEF MAKSURA FINAL FORM;
    qYEH FINAL FORM;gSAD WITH ALEF MAKSURA FINAL FORM;pYEH FINAL FORM;
    gDAD WITH ALEF MAKSURA FINAL FORM;pYEH FINAL FORM;gSHEEN WITH JEEM FINAL FORM;
    rHAH FINAL FORM;rKHAH FINAL FORM;rMEEM FINAL FORM;rREH FINAL FORM;hEEN WITH REH FINAL FORM;
    hAD WITH REH FINAL FORM;gDAD WITH REH FINAL FORM;gSHEEN WITH JEEM INITIAL FORM;
    rHAH INITIAL FORM;rKHAH INITIAL FORM;rMEEM INITIAL FORM;hEEN WITH HEH INITIAL FORM;
    hHEEN WITH HEH INITIAL FORM;gTAH WITH MEEM INITIAL FORM;gSEEN WITH JEEM MEDIAL FORM;
    qHAH MEDIAL FORM;qKHAH MEDIAL FORM;hHEEN WITH JEEM MEDIAL FORM;rHAH MEDIAL FORM;
    rKHAH MEDIAL FORM;gTAH WITH MEEM MEDIAL FORM;gZAH WITH MEEM MEDIAL FORM;
    gALEF WITH FATHATAN FINAL FORM;zISOLATED FORM;0ORNATE LEFT PARENTHESIS;7RIGHT PARENTHESIS;
    0ARABIC LIGATURE RAHIMAHU ALLAAH;iDI ALLAAHU ANH;wAA;wUM;yAA;xNNA;
    gSALLALLAAHU ALAYHI WA-AALIH;gALAYHI AS-SALAAM;mM AS-SALAAM;nAA AS-SALAAM;
    m AS-SALAATU WAS-SALAAM;gQUDDISA SIRRAH;gSALLALLAHU ALAYHI WAAALIHEE WA-SALLAM;
    gALAYHAA AS-SALAAM;gTABAARAKA WA-TAAALAA;gRAHIMAHUM ALLAAH;
    gTEH WITH JEEM WITH MEEM INITIAL FORM;pHAH WITH JEEM FINAL FORM;DINITIAL FORM;
    yMEEM INITIAL FORM;pKHAH WITH MEEM INITIAL FORM;pMEEM WITH JEEM INITIAL FORM;
    zHAH INITIAL FORM;zKHAH INITIAL FORM;gJEEM WITH MEEM WITH HAH FINAL FORM;EINITIAL FORM;
    gHAH WITH MEEM WITH YEH FINAL FORM;zALEF MAKSURA FINAL FORM;
    gSEEN WITH HAH WITH JEEM INITIAL FORM;qJEEM WITH HAH INITIAL FORM;AALEF MAKSURA FINAL FORM;
    qMEEM WITH HAH FINAL FORM;EINITIAL FORM;AJEEM INITIAL FORM;AMEEM FINAL FORM;FINITIAL FORM;
    hAD WITH HAH WITH HAH FINAL FORM;CINITIAL FORM;pMEEM WITH MEEM FINAL FORM;
    hHEEN WITH HAH WITH MEEM FINAL FORM;FINITIAL FORM;rJEEM WITH YEH FINAL FORM;
    rMEEM WITH KHAH FINAL FORM;GINITIAL FORM;BMEEM FINAL FORM;GINITIAL FORM;
    gDAD WITH HAH WITH ALEF MAKSURA FINAL FORM;pKHAH WITH MEEM FINAL FORM;EINITIAL FORM;
    gTAH WITH MEEM WITH HAH FINAL FORM;DINITIAL FORM;zMEEM INITIAL FORM;zYEH FINAL FORM;
    gAIN WITH JEEM WITH MEEM FINAL FORM;pMEEM WITH MEEM FINAL FORM;EINITIAL FORM;
    zALEF MAKSURA FINAL FORM;gGHAIN WITH MEEM WITH MEEM FINAL FORM;BYEH FINAL FORM;
    BALEF MAKSURA FINAL FORM;gFEH WITH KHAH WITH MEEM FINAL FORM;EINITIAL FORM;
    gQAF WITH MEEM WITH HAH FINAL FORM;zMEEM FINAL FORM;gLAM WITH HAH WITH MEEM FINAL FORM;
    yYEH FINAL FORM;yALEF MAKSURA FINAL FORM;pJEEM WITH JEEM INITIAL FORM;EFINAL FORM;
    pKHAH WITH MEEM FINAL FORM;EINITIAL FORM;pMEEM WITH HAH FINAL FORM;DINITIAL FORM;
    gMEEM WITH HAH WITH JEEM INITIAL FORM;zMEEM INITIAL FORM;zYEH FINAL FORM;
    qJEEM WITH HAH INITIAL FORM;AMEEM INITIAL FORM;qKHAH WITH JEEM INITIAL FORM;
    AMEEM INITIAL FORM;FD92=qJEEM WITH KHAH INITIAL FORM;gHEH WITH MEEM WITH JEEM INITIAL FORM;
    zMEEM INITIAL FORM;gNOON WITH HAH WITH MEEM INITIAL FORM;zALEF MAKSURA FINAL FORM;
    qJEEM WITH MEEM FINAL FORM;FINITIAL FORM;AALEF MAKSURA FINAL FORM;qMEEM WITH YEH FINAL FORM;
    AALEF MAKSURA FINAL FORM;gYEH WITH MEEM WITH MEEM FINAL FORM;EINITIAL FORM;
    gBEH WITH KHAH WITH YEH FINAL FORM;gTEH WITH JEEM WITH YEH FINAL FORM;
    zALEF MAKSURA FINAL FORM;pKHAH WITH YEH FINAL FORM;zALEF MAKSURA FINAL FORM;
    pMEEM WITH YEH FINAL FORM;zALEF MAKSURA FINAL FORM;gJEEM WITH MEEM WITH YEH FINAL FORM;
    qHAH WITH ALEF MAKSURA FINAL FORM;qMEEM WITH ALEF MAKSURA FINAL FORM;
    gSEEN WITH KHAH WITH ALEF MAKSURA FINAL FORM;hAD WITH HAH WITH YEH FINAL FORM;
    hHEEN WITH HAH WITH YEH FINAL FORM;gDAD WITH HAH WITH YEH FINAL FORM;
    gLAM WITH JEEM WITH YEH FINAL FORM;pMEEM WITH YEH FINAL FORM;
    gYEH WITH HAH WITH YEH FINAL FORM;pJEEM WITH YEH FINAL FORM;pMEEM WITH YEH FINAL FORM;
    gMEEM WITH MEEM WITH YEH FINAL FORM;gQAF WITH MEEM WITH YEH FINAL FORM;
    gNOON WITH HAH WITH YEH FINAL FORM;gQAF WITH MEEM WITH HAH INITIAL FORM;
    gLAM WITH HAH WITH MEEM INITIAL FORM;gAIN WITH MEEM WITH YEH FINAL FORM;
    gKAF WITH MEEM WITH YEH FINAL FORM;gNOON WITH JEEM WITH HAH INITIAL FORM;
    gMEEM WITH KHAH WITH YEH FINAL FORM;gLAM WITH JEEM WITH MEEM INITIAL FORM;
    gKAF WITH MEEM WITH MEEM FINAL FORM;gLAM WITH JEEM WITH MEEM FINAL FORM;
    gNOON WITH JEEM WITH HAH FINAL FORM;gJEEM WITH HAH WITH YEH FINAL FORM;
    gHAH WITH JEEM WITH YEH FINAL FORM;gMEEM WITH JEEM WITH YEH FINAL FORM;
    gFEH WITH MEEM WITH YEH FINAL FORM;gBEH WITH HAH WITH YEH FINAL FORM;
    gKAF WITH MEEM WITH MEEM INITIAL FORM;gAIN WITH JEEM WITH MEEM INITIAL FORM;
    gSAD WITH MEEM WITH MEEM INITIAL FORM;hEEN WITH KHAH WITH YEH FINAL FORM;
    gNOON WITH JEEM WITH YEH FINAL FORM;FDCF=gSALAAMUHU ALAYNAA;
    FDF0=jLA USED AS KORANIC STOP SIGN ISOLATED FORM;
    gQALA USED AS KORANIC STOP SIGN ISOLATED FORM;gALLAH ISOLATED FORM;hKBAR ISOLATED FORM;
    gMOHAMMAD ISOLATED FORM;gSALAM ISOLATED FORM;gRASOUL ISOLATED FORM;gALAYHE ISOLATED FORM;
    gWASALLAM ISOLATED FORM;gSALLA ISOLATED FORM;lLLAHOU ALAYHE WASALLAM;gJALLAJALALOUHOU;
    0RIAL SIGN;0ARABIC LIGATURE BISMILLAH AR-RAHMAN AR-RAHEEM;gSUBHAANAHU WA TAAALAA;
    gAZZA WA JALL;0VARIATION SELECTOR-1;j2;j3;j4;j5;j6;j7;j8;j9;j10;k1;k2;k3;k4;k5;k6;
    0PRESENTATION FORM FOR VERTICAL COMMA;vIDEOGRAPHIC COMMA;HFULL STOP;vCOLON;vSEMICOLON;
    vEXCLAMATION MARK;vQUESTION MARK;vLEFT WHITE LENTICULAR BRACKET;
    vRIGHT WHITE LENTICULAR BRAKCET;vHORIZONTAL ELLIPSIS;FE20=0COMBINING LIGATURE LEFT HALF;
    jRIGHT HALF;aDOUBLE TILDE LEFT HALF;nRIGHT HALF;aMACRON LEFT HALF;hRIGHT HALF;
    aCONJOINING MACRON;aLIGATURE LEFT HALF BELOW;jRIGHT HALF BELOW;aTILDE LEFT HALF BELOW;
    gRIGHT HALF BELOW;aMACRON LEFT HALF BELOW;hRIGHT HALF BELOW;aCONJOINING MACRON BELOW;
    bYRILLIC TITLO LEFT HALF;pRIGHT HALF;0PRESENTATION FORM FOR VERTICAL TWO DOT LEADER;
    vEM DASH;wN DASH;vLOW LINE;vWAVY LOW LINE;vLEFT PARENTHESIS;vRIGHT PARENTHESIS;
    vLEFT CURLY BRACKET;vRIGHT CURLY BRACKET;vLEFT TORTOISE SHELL BRACKET;
    vRIGHT TORTOISE SHELL BRACKET;vLEFT BLACK LENTICULAR BRACKET;
    vRIGHT BLACK LENTICULAR BRACKET;vLEFT DOUBLE ANGLE BRACKET;vRIGHT DOUBLE ANGLE BRACKET;
    vLEFT ANGLE BRACKET;vRIGHT ANGLE BRACKET;vLEFT CORNER BRACKET;vRIGHT CORNER BRACKET;
    vLEFT WHITE CORNER BRACKET;vRIGHT WHITE CORNER BRACKET;0SESAME DOT;0WHITE SESAME DOT;
    0PRESENTATION FORM FOR VERTICAL LEFT SQUARE BRACKET;vRIGHT SQUARE BRACKET;0DASHED OVERLINE;
    0CENTRELINE OVERLINE;0WAVY OVERLINE;0DOUBLE WAVY OVERLINE;1ASHED LOW LINE;
    0CENTRELINE LOW LINE;0WAVY LOW LINE;0SMALL COMMA;6IDEOGRAPHIC COMMA;6FULL STOP;
    FE54=6SEMICOLON;6COLON;6QUESTION MARK;6EXCLAMATION MARK;7M DASH;6LEFT PARENTHESIS;
    6RIGHT PARENTHESIS;6LEFT CURLY BRACKET;6RIGHT CURLY BRACKET;6LEFT TORTOISE SHELL BRACKET;
    6RIGHT TORTOISE SHELL BRACKET;6NUMBER SIGN;6AMPERSAND;7STERISK;6PLUS SIGN;6HYPHEN-MINUS;
    6LESS-THAN SIGN;6GREATER-THAN SIGN;6EQUALS SIGN;FE68=6REVERSE SOLIDUS;6DOLLAR SIGN;
    6PERCENT SIGN;6COMMERCIAL AT;FE70=0ARABIC FATHATAN ISOLATED FORM;
    7TATWEEL WITH FATHATAN ABOVE;7DAMMATAN ISOLATED FORM;7TAIL FRAGMENT;7KASRATAN ISOLATED FORM;
    FE76=7FATHA ISOLATED FORM;dMEDIAL FORM;7DAMMA ISOLATED FORM;dMEDIAL FORM;
    7KASRA ISOLATED FORM;dMEDIAL FORM;7SHADDA ISOLATED FORM;eMEDIAL FORM;8UKUN ISOLATED FORM;
    dMEDIAL FORM;7LETTER HAMZA ISOLATED FORM;eALEF WITH MADDA ABOVE ISOLATED FORM;AFINAL FORM;
    oHAMZA ABOVE ISOLATED FORM;AFINAL FORM;eWAW WITH HAMZA ABOVE ISOLATED FORM;zFINAL FORM;
    eALEF WITH HAMZA BELOW ISOLATED FORM;AFINAL FORM;eYEH WITH HAMZA ABOVE ISOLATED FORM;
    zFINAL FORM;zINITIAL FORM;zMEDIAL FORM;eALEF ISOLATED FORM;jFINAL FORM;eBEH ISOLATED FORM;
    iFINAL FORM;iINITIAL FORM;iMEDIAL FORM;eTEH MARBUTA ISOLATED FORM;qFINAL FORM;
    iISOLATED FORM;iFINAL FORM;iINITIAL FORM;iMEDIAL FORM;fHEH ISOLATED FORM;jFINAL FORM;
    jINITIAL FORM;jMEDIAL FORM;eJEEM ISOLATED FORM;jFINAL FORM;jINITIAL FORM;jMEDIAL FORM;
    eHAH ISOLATED FORM;iFINAL FORM;iINITIAL FORM;iMEDIAL FORM;eKHAH ISOLATED FORM;jFINAL FORM;
    jINITIAL FORM;jMEDIAL FORM;eDAL ISOLATED FORM;iFINAL FORM;eTHAL ISOLATED FORM;jFINAL FORM;
    eREH ISOLATED FORM;iFINAL FORM;eZAIN ISOLATED FORM;jFINAL FORM;eSEEN ISOLATED FORM;
    jFINAL FORM;jINITIAL FORM;jMEDIAL FORM;fHEEN ISOLATED FORM;kFINAL FORM;kINITIAL FORM;
    kMEDIAL FORM;fAD ISOLATED FORM;iFINAL FORM;iINITIAL FORM;iMEDIAL FORM;eDAD ISOLATED FORM;
    iFINAL FORM;iINITIAL FORM;iMEDIAL FORM;eTAH ISOLATED FORM;iFINAL FORM;iINITIAL FORM;
    iMEDIAL FORM;eZAH ISOLATED FORM;iFINAL FORM;iINITIAL FORM;iMEDIAL FORM;eAIN ISOLATED FORM;
    iFINAL FORM;iINITIAL FORM;iMEDIAL FORM;eGHAIN ISOLATED FORM;kFINAL FORM;kINITIAL FORM;
    kMEDIAL FORM;eFEH ISOLATED FORM;iFINAL FORM;iINITIAL FORM;iMEDIAL FORM;eQAF ISOLATED FORM;
    iFINAL FORM;iINITIAL FORM;iMEDIAL FORM;eKAF ISOLATED FORM;iFINAL FORM;iINITIAL FORM;
    iMEDIAL FORM;eLAM ISOLATED FORM;iFINAL FORM;iINITIAL FORM;iMEDIAL FORM;eMEEM ISOLATED FORM;
    jFINAL FORM;jINITIAL FORM;jMEDIAL FORM;eNOON ISOLATED FORM;jFINAL FORM;jINITIAL FORM;
    jMEDIAL FORM;eHEH ISOLATED FORM;iFINAL FORM;iINITIAL FORM;iMEDIAL FORM;eWAW ISOLATED FORM;
    iFINAL FORM;eALEF MAKSURA ISOLATED FORM;rFINAL FORM;eYEH ISOLATED FORM;iFINAL FORM;
    iINITIAL FORM;iMEDIAL FORM;8IGATURE LAM WITH ALEF WITH MADDA ABOVE ISOLATED FORM;
    LFINAL FORM;zHAMZA ABOVE ISOLATED FORM;LFINAL FORM;FBELOW ISOLATED FORM;LFINAL FORM;
    uISOLATED FORM;uFINAL FORM;FEFF=0ZERO WIDTH NO-BREAK SPACE;FF01=0FULLWIDTH EXCLAMATION MARK;
    aQUOTATION MARK;aNUMBER SIGN;aDOLLAR SIGN;aPERCENT SIGN;aAMPERSAND;bPOSTROPHE;
    aLEFT PARENTHESIS;aRIGHT PARENTHESIS;aASTERISK;aPLUS SIGN;aCOMMA;aHYPHEN-MINUS;aFULL STOP;
    aSOLIDUS;aDIGIT ZERO;gONE;gTWO;hHREE;gFOUR;hIVE;gSIX;hEVEN;gEIGHT;gNINE;aCOLON;aSEMICOLON;
    aLESS-THAN SIGN;aEQUALS SIGN;aGREATER-THAN SIGN;aQUESTION MARK;aCOMMERCIAL AT;
    aLATIN CAPITAL LETTER A;vB;vC;vD;vE;vF;vG;vH;vI;vJ;vK;vL;vM;vN;vO;vP;vQ;vR;vS;vT;vU;vV;vW;
    vX;vY;vZ;bEFT SQUARE BRACKET;aREVERSE SOLIDUS;bIGHT SQUARE BRACKET;aCIRCUMFLEX ACCENT;
    aLOW LINE;aGRAVE ACCENT;aLATIN SMALL LETTER A;tB;tC;tD;tE;tF;tG;tH;tI;tJ;tK;tL;tM;tN;tO;tP;
    tQ;tR;tS;tT;tU;tV;tW;tX;tY;tZ;bEFT CURLY BRACKET;aVERTICAL LINE;aRIGHT CURLY BRACKET;aTILDE;
    aLEFT WHITE PARENTHESIS;aRIGHT WHITE PARENTHESIS;0HALFWIDTH IDEOGRAPHIC FULL STOP;
    aLEFT CORNER BRACKET;aRIGHT CORNER BRACKET;aIDEOGRAPHIC COMMA;aKATAKANA MIDDLE DOT;
    jLETTER WO;qSMALL A;wI;wU;wE;wO;wYA;xU;xO;wTU;i-HIRAGANA PROLONGED SOUND MARK;i LETTER A;qI;
    qU;qE;qO;qKA;rI;rU;rE;rO;qSA;rI;rU;rE;rO;qTA;rI;rU;rE;rO;qNA;rI;rU;rE;rO;qHA;rI;rU;rE;rO;
    qMA;rI;rU;rE;rO;qYA;rU;rO;qRA;rI;rU;rE;rO;qWA;qN;jVOICED SOUND MARK;jSEMI-VOICED SOUND MARK;
    aHANGUL FILLER;hLETTER KIYEOK;oSSANGKIYEOK;oKIYEOK-SIOS;oNIEUN;t-CIEUC;uHIEUH;oTIKEUT;
    oSSANGTIKEUT;oRIEUL;t-KIYEOK;uMIEUM;uPIEUP;uSIOS;uTHIEUTH;uPHIEUPH;uHIEUH;oMIEUM;oPIEUP;
    oSSANGPIEUP;oPIEUP-SIOS;oSIOS;pSANGSIOS;oIEUNG;oCIEUC;oSSANGCIEUC;oCHIEUCH;oKHIEUKH;
    oTHIEUTH;oPHIEUPH;oHIEUH;FFC2=oA;pE;oYA;qE;oEO;p;FFCA=oYEO;q;oO;oWA;qE;oOE;FFD2=oYO;oU;oWEO;
    q;pI;oYU;FFDA=oEU;oYI;oI;FFE0=0FULLWIDTH CENT SIGN;aPOUND SIGN;aNOT SIGN;aMACRON;
    aBROKEN BAR;aYEN SIGN;aWON SIGN;FFE8=0HALFWIDTH FORMS LIGHT VERTICAL;aLEFTWARDS ARROW;
    aUPWARDS ARROW;aRIGHTWARDS ARROW;aDOWNWARDS ARROW;aBLACK SQUARE;aWHITE CIRCLE;
    FFF9=0INTERLINEAR ANNOTATION ANCHOR;nSEPARATOR;nTERMINATOR;0OBJECT REPLACEMENT CHARACTER;
    0REPLACEMENT CHARACTER;10000=0LINEAR B SYLLABLE B008 A;k38 E;k28 I;k61 O;k10 U;k01 DA;
    k45 DE;k07 DI;k14 DO;k51 DU;l7 JA;k46 JE;1000D=k36 JO;k65 JU;k77 KA;k44 KE;k67 KI;k70 KO;
    k81 KU;l0 MA;k13 ME;k73 MI;k15 MO;k23 MU;k06 NA;k24 NE;k30 NI;k52 NO;l5 NU;k03 PA;k72 PE;
    k39 PI;k11 PO;k50 PU;k16 QA;k78 QE;k21 QI;k32 QO;10028=k60 RA;k27 RE;k53 RI;k02 RO;k26 RU;
    k31 SA;k09 SE;k41 SI;k12 SO;k58 SU;l9 TA;k04 TE;k37 TI;k05 TO;k69 TU;k54 WA;k75 WE;k40 WI;
    l2 WO;1003C=k17 ZA;k74 ZE;1003F=k20 ZO;l5 A2;k43 A3;k85 AU;k71 DWE;k90 DWO;k48 NWA;k29 PU2;
    k62 PTE;k76 RA2;k33 RA3;k68 RO2;l6 TA2;k87 TWE;k91 TWO;10050=bMBOL B018;j9;i22;i34;i47;j9;
    i56;i63;j4;i79;i82;j3;j6;j9;10080=9IDEOGRAM B100 MAN;l2 WOMAN;l4 DEER;l5 EQUID;mF MARE;
    mM STALLION;l6F EWE;mM RAM;l7F SHE-GOAT;mM HE-GOAT;l8F SOW;mM BOAR;l9F COW;mM BULL;
    k20 WHEAT;l1 BARLEY;l2 OLIVE;l3 SPICE;l5 CYPERUS;9MONOGRAM B127 KAPO;l8 KANAKO;
    9IDEOGRAM B130 OIL;l1 WINE;l2;9MONOGRAM B133 AREPA;l5 MERI;9IDEOGRAM B140 BRONZE;l1 GOLD;l2;
    l5 WOOL;l6;k50;l1 HORN;l2;l3;l4;9MONOGRAM B156 TURO2;9IDEOGRAM B157;l8;l9 CLOTH;k60;l1;
    l2 GARMENT;l3 ARMOUR;l4;l5;l6;l7;l8;l9;k70;l1;l2;l3 MONTH;l4;l6 TREE;l7;l8;l9;k80;l1;l2;l3;
    l4;l5;l9;k90;l1 HELMET;j220 FOOTSTOOL;l5 BATHTUB;k30 SPEAR;l1 ARROW;l2;l3 SWORD;l4;l6;
    k40 WHEELED CHARIOT;l1 CHARIOT;l2 CHARIOT FRAME;l3 WHEEL;l5;l6;9MONOGRAM B247 DIPTE;
    9IDEOGRAM B248;l9;k51;l2;l3;l4 DART;l5;l6;l7;l8;l9;iVESSEL B155;q200;s1;s2;s3;s4;s5;s6;s7;
    s8;s9;r10;s1;s2;s3;s4;s5;s6;s7;s8;s9;r21;s2;s6;s7;s8;s9;r50;q305;
    10100=0AEGEAN WORD SEPARATOR LINE;mDOT;7CHECK MARK;10107=7NUMBER ONE;eTWO;fHREE;eFOUR;fIVE;
    eSIX;fEVEN;eEIGHT;eNINE;eTEN;fWENTY;fHIRTY;eFORTY;fIFTY;eSIXTY;fEVENTY;eEIGHTY;eNINETY;
    eONE HUNDRED;eTWO HUNDRED;fHREE HUNDRED;eFOUR HUNDRED;fIVE HUNDRED;eSIX HUNDRED;
    fEVEN HUNDRED;eEIGHT HUNDRED;eNINE HUNDRED;eONE THOUSAND;eTWO THOUSAND;fHREE THOUSAND;
    eFOUR THOUSAND;fIVE THOUSAND;eSIX THOUSAND;fEVEN THOUSAND;eEIGHT THOUSAND;eNINE THOUSAND;
    eTEN THOUSAND;fWENTY THOUSAND;fHIRTY THOUSAND;eFORTY THOUSAND;fIFTY THOUSAND;
    eSIXTY THOUSAND;fEVENTY THOUSAND;eEIGHTY THOUSAND;eNINETY THOUSAND;10137=7WEIGHT BASE UNIT;
    eFIRST SUBUNIT;eSECOND SUBUNIT;eTHIRD SUBUNIT;eFOURTH SUBUNIT;7DRY MEASURE FIRST SUBUNIT;
    7LIQUID MEASURE FIRST SUBUNIT;7MEASURE SECOND SUBUNIT;fTHIRD SUBUNIT;
    0GREEK ACROPHONIC ATTIC ONE QUARTER;rHALF;rDRACHMA;nFIVE;pFTY;pVE HUNDRED;sTHOUSAND;
    pFTY THOUSAND;pVE TALENTS;nTEN TALENTS;nFIFTY TALENTS;nONE HUNDRED TALENTS;
    nFIVE HUNDRED TALENTS;nONE THOUSAND TALENTS;nFIVE THOUSAND TALENTS;sSTATERS;nTEN STATERS;
    nFIFTY STATERS;nONE HUNDRED STATERS;nFIVE HUNDRED STATERS;nONE THOUSAND STATERS;
    nTEN THOUSAND STATERS;nFIFTY THOUSAND STATERS;nTEN MNAS;hHERAEUM ONE PLETHRON;hTHESPIAN ONE;
    hHERMIONIAN ONE;hEPIDAUREAN TWO;hTHESPIAN TWO;hCYRENAIC TWO DRACHMAS;
    hEPIDAUREAN TWO DRACHMAS;hTROEZENIAN FIVE;sTEN;v ALTERNATE FORM;hHERMIONIAN TEN;
    hMESSENIAN TEN;hTHESPIAN TEN;rHIRTY;iROEZENIAN FIFTY;x ALTERNATE FORM;hHERMIONIAN FIFTY;
    hTHESPIAN FIFTY;qONE HUNDRED;qTHREE HUNDRED;hEPIDAUREAN FIVE HUNDRED;
    hTROEZENIAN FIVE HUNDRED;iHESPIAN FIVE HUNDRED;hCARYSTIAN FIVE HUNDRED;hNAXIAN FIVE HUNDRED;
    hTHESPIAN ONE THOUSAND;qFIVE THOUSAND;hDELPHIC FIVE MNAS;hSTRATIAN FIFTY MNAS;
    6ONE HALF SIGN;j ALTERNATE FORM;6TWO THIRDS SIGN;7HREE QUARTERS SIGN;6YEAR SIGN;
    6TALENT SIGN;6DRACHMA SIGN;6OBOL SIGN;6TWO OBOLS SIGN;7HREE OBOLS SIGN;6FOUR OBOLS SIGN;
    7IVE OBOLS SIGN;6METRETES SIGN;6KYATHOS BASE SIGN;6LITRA SIGN;6OUNKIA SIGN;6XESTES SIGN;
    6ARTABE SIGN;8OURA SIGN;6GRAMMA SIGN;6TRYBLION BASE SIGN;6ZERO SIGN;6ONE QUARTER SIGN;
    6SINUSOID SIGN;6INDICTION SIGN;0NOMISMA SIGN;10190=0ROMAN SEXTANS SIGN;6UNCIA SIGN;
    6SEMUNCIA SIGN;8XTULA SIGN;6DIMIDIA SEXTULA SIGN;6SILIQUA SIGN;6DENARIUS SIGN;
    6QUINARIUS SIGN;6SESTERTIUS SIGN;6DUPONDIUS SIGN;6AS SIGN;6CENTURIAL SIGN;0ASCIA SYMBOL;
    101A0=0GREEK SYMBOL TAU RHO;101D0=0PHAISTOS DISC SIGN PEDESTRIAN;kLUMED HEAD;jTATTOOED HEAD;
    jCAPTIVE;kHILD;jWOMAN;jHELMET;jGAUNTLET;jTIARA;jARROW;jBOW;jSHIELD;jCLUB;jMANACLES;lTTOCK;
    jSAW;jLID;jBOOMERANG;jCARPENTRY PLANE;jDOLIUM;jCOMB;jSLING;jCOLUMN;jBEEHIVE;jSHIP;jHORN;
    kIDE;jBULLS LEG;jCAT;jRAM;jEAGLE;jDOVE;jTUNNY;jBEE;jPLANE TREE;jVINE;jPAPYRUS;jROSETTE;
    jLILY;jOX BACK;jFLUTE;jGRATER;jSTRAINER;kMALL AXE;jWAVY BAND;jCOMBINING OBLIQUE STROKE;
    10280=0LYCIAN LETTER A;eE;eB;fH;eG;eD;eI;eW;eZ;eTH;eJ;eK;eQ;eL;eM;eN;eMM;eNN;eU;eP;eKK;eR;
    eS;eT;fT;eAN;eEN;eH;eX;102A0=0CARIAN LETTER A;eP2;eD;eL;eUUU;eR;eLD;eA2;eQ;eB;eM;eO;eD2;eT;
    eSH;g2;f;eC-18;eU;eNN;eX;eN;eTT2;eP;eSS;eI;eE;eUUUU;eK;f2;eND;eUU;eG;f2;eST;g2;eNG;eII;
    eC-39;eTT;eUUU2;eRR;eMB;g2;g3;g4;eLD2;eE2;eUUU3;102E0=1OPTIC EPACT THOUSANDS MARK;
    dDIGIT ONE;jTWO;kHREE;jFOUR;kIVE;jSIX;kEVEN;jEIGHT;jNINE;dNUMBER TEN;lWENTY;lHIRTY;kFORTY;
    lIFTY;kSIXTY;lEVENTY;kEIGHTY;kNINETY;kONE HUNDRED;kTWO HUNDRED;lHREE HUNDRED;kFOUR HUNDRED;
    lIVE HUNDRED;kSIX HUNDRED;lEVEN HUNDRED;kEIGHT HUNDRED;kNINE HUNDRED;
    10300=0OLD ITALIC LETTER A;iBE;iKE;iDE;iE;iVE;iZE;iHE;iTHE;iI;iKA;iEL;jM;jN;jSH;iO;iPE;iSHE;
    iKU;iER;jS;iTE;iU;iEKS;iPHE;iKHE;iEF;jRS;iCHE;iII;iUU;iESS;bNUMERAL ONE;jFIVE;jTEN;jFIFTY;
    1032D=bLETTER YE;iNORTHERN TSE;iSOUTHERN TSE;0GOTHIC LETTER AHSA;eBAIRKAN;eGIBA;eDAGS;
    eAIHVUS;eQAIRTHRA;eIUJA;eHAGL;eTHIUTH;eEIS;eKUSMA;eLAGUS;eMANNA;eNAUTHS;eJER;eURUS;
    ePAIRTHRA;eNINETY;eRAIDA;eSAUIL;eTEIWS;eWINJA;eFAIHU;eIGGWS;eHWAIR;eOTHAL;eNINE HUNDRED;
    10350=0OLD PERMIC LETTER AN;iBUR;iGAI;iDOI;iE;iZHOI;iDZHOI;iZATA;iDZITA;iI;iKOKE;iLEI;
    iMENOE;iNENOE;iVOOI;iPEEI;iREI;iSII;iTAI;iU;iCHERY;iSHOOI;kCHOOI;iYRY;jERU;iO;jO;iEF;iHA;
    iTSIU;iVER;iYER;lI;jAT;iIE;iYU;jA;iIA;0COMBINING OLD PERMIC LETTER AN;sDOI;sZATA;sNENOE;
    sSII;10380=0UGARITIC LETTER ALPA;gBETA;gGAMLA;gKHA;gDELTA;gHO;gWO;gZETA;gHOTA;gTET;gYOD;
    gKAF;gSHIN;gLAMDA;gMEM;gDHAL;gNUN;gZU;gSAMKA;gAIN;gPU;gSADE;gQOPA;gRASHA;gTHANNA;gGHAIN;gTO;
    gI;gU;gSSU;1039F=9WORD DIVIDER;0OLD PERSIAN SIGN A;hI;hU;hKA;iU;hGA;iU;hXA;hCA;hJA;iI;hTA;
    iU;hDA;iI;iU;hTHA;hPA;hBA;hFA;hNA;iU;hMA;iI;iU;hYA;hVA;iI;hRA;iU;hLA;hSA;hZA;hSHA;iSA;hHA;
    103C8=hAURAMAZDAA;r-2;rHA;hXSHAAYATHIYA;hDAHYAAUSH;q-2;hBAGA;iUUMISH;cWORD DIVIDER;
    cNUMBER ONE;jTWO;kEN;kWENTY;jHUNDRED;10400=0DESERET CAPITAL LETTER LONG I;sE;sA;tH;sO;tO;
    nSHORT I;tE;tA;uH;tO;uO;nAY;nOW;nWU;nYEE;nH;nPEE;nBEE;nTEE;nDEE;nCHEE;nJEE;nKAY;nGAY;nEF;
    nVEE;nETH;nTHEE;nES;nZEE;nESH;nZHEE;nER;oL;oM;oN;pG;nOI;nEW;8SMALL LETTER LONG I;qE;qA;rH;
    qO;rO;lSHORT I;rE;rA;sH;rO;sO;lAY;lOW;lWU;lYEE;lH;lPEE;lBEE;lTEE;lDEE;lCHEE;lJEE;lKAY;lGAY;
    lEF;lVEE;lETH;lTHEE;lES;lZEE;lESH;lZHEE;lER;mL;mM;mN;nG;lOI;lEW;0SHAVIAN LETTER PEEP;fTOT;
    fKICK;fFEE;fTHIGH;fSO;gURE;fCHURCH;fYEA;fHUNG;fBIB;fDEAD;fGAG;fVOW;fTHEY;fZOO;fMEASURE;
    fJUDGE;fWOE;fHA-HA;fLOLL;fMIME;fIF;fEGG;fASH;gDO;fON;fWOOL;fOUT;fAH;fROAR;fNUN;fEAT;fAGE;
    fICE;fUP;fOAK;gOZE;gIL;fAWE;gRE;fOR;fAIR;fERR;fARRAY;fEAR;fIAN;fYEW;0OSMANYA LETTER ALEF;
    fBA;fTA;fJA;fXA;fKHA;fDEEL;fRA;fSA;gHIIN;fDHA;fCAYN;fGA;fFA;fQAAF;fKAAF;fLAAN;fMIIN;fNUUN;
    fWAW;fHA;fYA;fA;fE;fI;fO;fU;fAA;fEE;fOO;104A0=8DIGIT ZERO;eONE;eTWO;fHREE;eFOUR;fIVE;eSIX;
    fEVEN;eEIGHT;eNINE;104B0=2AGE CAPITAL LETTER A;mI;nN;mH;lBRA;lCHA;lEHCHA;m;mIN;lHA;mYA;lI;
    lKA;lEHKA;lKYA;lLA;lMA;lNA;lO;mIN;lPA;lEHPA;lSA;mHA;lTA;lEHTA;lTSA;lEHTSA;lTSHA;lDHA;lU;lWA;
    lKHA;lGHA;lZA;mHA;104D8=6SMALL LETTER A;kI;lN;kH;jBRA;jCHA;jEHCHA;k;kIN;jHA;kYA;jI;jKA;
    jEHKA;jKYA;jLA;jMA;jNA;jO;kIN;jPA;jEHPA;jSA;kHA;jTA;jEHTA;jTSA;jEHTSA;jTSHA;jDHA;jU;jWA;
    jKHA;jGHA;jZA;kHA;10500=0ELBASAN LETTER A;fBE;fCE;gHE;fDE;fNDE;fDHE;fEI;g;fFE;fGE;gJE;fHE;
    fI;fJE;fKE;fLE;gLE;fME;fNE;gA;gJE;fO;fPE;fQE;fRE;gRE;fSE;gHE;fTE;gHE;fU;fVE;fXE;fY;fZE;gHE;
    fGHE;hAMMA;fKHE;10530=0CAUCASIAN ALBANIAN LETTER ALT;qBET;qGIM;qDAT;qEB;qZARL;qEYN;qZHIL;
    qTAS;qCHA;qYOWD;qZHA;qIRB;qSHA;qLAN;qINYA;qXEYN;qDYAN;qCAR;qJHOX;qKAR;qLYIT;qHEYT;qQAY;qAOR;
    qCHOY;sI;rYAY;qMAQ;qQAR;qNOWC;qDZYAY;qSHAK;qJAYN;qON;qTYAY;qFAM;qDZAY;qCHAT;qPEN;qGHEYS;
    qRAT;qSEYK;qVEYZ;qTIWR;qSHOY;qIWN;qCYAW;rAYN;qYAYD;qPIWR;qKIW;1056F=jCITATION MARK;
    0VITHKUQI CAPITAL LETTER A;oBBE;pE;oCE;pHE;oDE;pHE;oEI;p;oFE;oGA;1057C=oHA;pHA;oI;pJE;oJE;
    oKA;oLA;pLA;oME;oNE;pJE;oO;oPE;oQA;oRE;1058C=oSE;pHE;oTE;pHE;oU;oVE;oXE;10594=oY;oZE;
    10597=9SMALL LETTER A;mBBE;nE;mCE;nHE;mDE;nHE;mEI;n;mFE;mGA;105A3=mHA;nHA;mI;nJE;mJE;mKA;
    mLA;nLA;mME;mNE;nJE;mO;mPE;mQA;mRE;105B3=mSE;nHE;mTE;nHE;mU;mVE;mXE;105BB=mY;mZE;
    10600=0LINEAR A SIGN AB001;i2;i3;i4;i5;i6;i7;i8;i9;h10;i1;i3;i6;i7;h20;i1;jF;jM;i2;jF;jM;i3;
    jM;i4;i6;i7;i8;f028B;fB029;h30;i1;i4;i7;i8;i9;h40;i1;i4;i5;i6;i7;i8;i9;h50;i1;i3;i4;i5;i6;
    i7;i8;i9;h60;i1;i5;i6;i7;i9;h70;i3;i4;i6;i7;i8;i9;h80;i1;i2;i5;i6;i7;f100-102;fB118;h20;
    f120B;fB122;i3;h31A;jB;f131C;fB164;h71;h80;i8;h91;f301;h2;h3;h4;h5;h6;h7;h8;h9A;iB;iC;g10;
    h1;h2;h3A;iB;iC;h4;h5;h6;h7;h8;h9;g20;h1;h2;h3;h4;h5;h6;h7;h8;h9;g30;h1;h2;h3;h4;h5;h6;h7;
    h8;h9;g40;h1;h2;h3;h4;h5;h6;h7;h8;h9;g50;h1;h2;h3;h4;h5;h6;h7;h8;h9;g60;h1;h2;h3;h4;h5;h6;
    h7;h8;h9;g70;h1;f400-VAS;h1-VAS;h2-VAS;h3-VAS;h4-VAS;h5-VAS;h6-VAS;h7-VAS;h8-VAS;h9-VAS;
    g10-VAS;h1-VAS;h2-VAS;h3-VAS;h4-VAS;h5-VAS;h6-VAS;h7-VAS;h8-VAS;f501;h2;h3;h4;h5;h6;h8;h9;
    g10;h1;h2;h3;h5;h6;g20;h1;h3;h4;h5;h6;h7;h8;h9;g30;h1;h2;h4;h5;h6;h7;h8;h9;g40;h1;h2;h5;h7;
    h8;h9;g50;h1;h2;h3;h4;h5;h6;h7;h9;g63;h4;h5;h6;h8;h9;g70;h1;h2;h3;h4;h5;h6;h7;h8;h9;g80;h1;
    h2;h3;h4;h5;h6;h7;h8;h9;g91;h2;h4;h5;h6;h8;f600;h1;h2;h3;h4;h6;h8;h9;g10;h1;h2;h3;h4;h5;h6;
    h7;h8;h9;g20;h1;h2;h3;h4;h6;h7;h8;h9;g34;h7;h8;g40;h2;h3;h4;h5;h6;h8;h9;g51;h2;h3;h4;h5;h6;
    h7;h8;h9;g60;h1;h2;h3;h4;10740=f701 A;h2 B;h3 D;h4 E;h5 F;h6 H;h7 J;h8 K;h9 L;i-2 L2;j3 L3;
    j4 L4;j6 L6;g10 W;h1 X;h2 Y;h3 OMEGA;h4 ABB;h5 BB;h7 DD;g26 EYYY;g32 JE;10760=f800;h1;h2;h3;
    h4;h5;h6;h7;10780=0MODIFIER LETTER SMALL CAPITAL AA;hUPERSCRIPT TRIANGULAR COLON;
    sHALF TRIANGULAR COLON;hMALL AE;mCAPITAL B;mB WITH HOOK;10787=mDZ DIGRAPH;
    w WITH RETROFLEX HOOK;CCURL;nEZH DIGRAPH;n WITH TAIL;tHOOK;x AND TAIL;mREVERSED E;
    mCLOSED REVERSED OPEN E;mFENG DIGRAPH;mRAMS HORN;mCAPITAL G;mG WITH HOOK;
    mCAPITAL G WITH HOOK;mH WITH STROKE;mCAPITAL H;mHENG WITH HOOK;
    mDOTLESS J WITH STROKE AND HOOK;mLS DIGRAPH;nZ DIGRAPH;n WITH BELT;mCAPITAL L WITH BELT;
    mL WITH RETROFLEX HOOK AND BELT;nEZH;q WITH RETROFLEX HOOK;mTURNED Y;u WITH BELT;
    mO WITH STROKE;mCAPITAL OE;nLOSED OMEGA;mQ;mTURNED R WITH LONG LEG;I AND RETROFLEX HOOK;
    mR WITH TAIL;tFISHHOOK;mCAPITAL R;mTC DIGRAPH WITH CURL;nS DIGRAPH;w WITH RETROFLEX HOOK;
    nESH DIGRAPH;n WITH RETROFLEX HOOK;mV WITH RIGHT HOOK;107B2=mCAPITAL Y;
    gGLOTTAL STOP WITH STROKE;gREVERSED GLOTTAL STOP WITH STROKE;gBILABIAL CLICK;gDENTAL CLICK;
    gLATERAL CLICK;gALVEOLAR CLICK;gRETROFLEX CLICK WITH RETROFLEX HOOK;gSMALL S WITH CURL;
    10800=0CYPRIOT SYLLABLE A;hE;hI;hO;hU;hJA;10808=iO;1080A=hKA;iE;iI;iO;iU;hLA;iE;iI;iO;iU;
    hMA;iE;iI;iO;iU;hNA;iE;iI;iO;iU;hPA;iE;iI;iO;iU;hRA;iE;iI;iO;iU;hSA;iE;iI;iO;iU;hTA;iE;iI;
    iO;iU;hWA;iE;iI;iO;10837=hXA;iE;1083C=hZA;1083F=iO;0IMPERIAL ARAMAIC LETTER ALEPH;oBETH;
    oGIMEL;oDALETH;oHE;oWAW;oZAYIN;oHETH;oTETH;oYODH;oKAPH;oLAMEDH;oMEM;oNUN;oSAMEKH;oAYIN;oPE;
    oSADHE;oQOPH;oRESH;oSHIN;oTAW;10857=hSECTION SIGN;hNUMBER ONE;oTWO;pHREE;pEN;pWENTY;
    oONE HUNDRED;sTHOUSAND;oTEN THOUSAND;0PALMYRENE LETTER ALEPH;hBETH;hGIMEL;hDALETH;hHE;hWAW;
    hZAYIN;hHETH;hTETH;hYODH;hKAPH;hLAMEDH;hMEM;hFINAL NUN;hNUN;hSAMEKH;hAYIN;hPE;hSADHE;hQOPH;
    hRESH;hSHIN;hTAW;cFT-POINTING FLEURON;aRIGHT-POINTING FLEURON;aNUMBER ONE;hTWO;iHREE;hFOUR;
    iIVE;hTEN;iWENTY;0NABATAEAN LETTER FINAL ALEPH;hALEPH;hFINAL BETH;hBETH;hGIMEL;hDALETH;
    hFINAL HE;hHE;hWAW;hZAYIN;hHETH;hTETH;hFINAL YODH;hYODH;hFINAL KAPH;hKAPH;hFINAL LAMEDH;
    hLAMEDH;hFINAL MEM;hMEM;hFINAL NUN;hNUN;hSAMEKH;hAYIN;hPE;hSADHE;hQOPH;hRESH;hFINAL SHIN;
    hSHIN;hTAW;108A7=aNUMBER ONE;hTWO;iHREE;hFOUR;aCRUCIFORM NUMBER FOUR;aNUMBER FIVE;hTEN;
    iWENTY;hONE HUNDRED;108E0=0HATRAN LETTER ALEPH;eBETH;eGIMEL;eDALETH-RESH;eHE;eWAW;eZAYN;
    eHETH;eTETH;eYODH;eKAPH;eLAMEDH;eMEM;eNUN;eSAMEKH;eAYN;ePE;eSADHE;eQOPH;108F4=eSHIN;eTAW;
    108FB=7NUMBER ONE;eFIVE;eTEN;fWENTY;eONE HUNDRED;0PHOENICIAN LETTER ALF;iBET;iGAML;iDELT;
    iHE;iWAU;iZAI;iHET;iTET;iYOD;iKAF;iLAMD;iMEM;iNUN;iSEMK;iAIN;iPE;iSADE;iQOF;iROSH;iSHIN;
    iTAU;bNUMBER ONE;iTEN;jWENTY;iONE HUNDRED;iTWO;jHREE;1091F=bWORD SEPARATOR;0LYDIAN LETTER A;
    eB;eG;eD;eE;eV;eI;eY;eK;eL;eM;eN;eO;eR;eSS;eT;eU;eF;eQ;eS;eTT;eAN;eEN;eLY;eNN;eC;
    1093F=7TRIANGULAR MARK;10980=0MEROITIC HIEROGLYPHIC LETTER A;tE;tI;tO;tYA;tWA;tBA;v-2;tPA;
    tMA;tNA;v-2;uE;v-2;tRA;v-2;tLA;tKHA;tHHA;tSA;v-2;uE;tKA;tQA;tTA;v-2;uE;v-2;uO;tDA;
    mSYMBOL VIDJ;x-2;9CURSIVE LETTER A;oE;oI;oO;oYA;oWA;oBA;oPA;oMA;oNA;pE;oRA;oLA;oKHA;oHHA;
    oSA;oARCHAIC SA;oSE;oKA;oQA;oTA;pE;pO;oDA;109BC=hFRACTION ELEVEN TWELFTHS;qONE HALF;
    hLOGOGRAM RMT;qIMN;hNUMBER ONE;oTWO;pHREE;oFOUR;pIVE;oSIX;pEVEN;oEIGHT;oNINE;oTEN;pWENTY;
    pHIRTY;oFORTY;pIFTY;oSIXTY;pEVENTY;109D2=oONE HUNDRED;oTWO HUNDRED;pHREE HUNDRED;
    oFOUR HUNDRED;pIVE HUNDRED;oSIX HUNDRED;pEVEN HUNDRED;oEIGHT HUNDRED;oNINE HUNDRED;
    oONE THOUSAND;oTWO THOUSAND;pHREE THOUSAND;oFOUR THOUSAND;pIVE THOUSAND;oSIX THOUSAND;
    pEVEN THOUSAND;oEIGHT THOUSAND;oNINE THOUSAND;oTEN THOUSAND;pWENTY THOUSAND;pHIRTY THOUSAND;
    oFORTY THOUSAND;pIFTY THOUSAND;oSIXTY THOUSAND;pEVENTY THOUSAND;oEIGHTY THOUSAND;
    oNINETY THOUSAND;oONE HUNDRED THOUSAND;oTWO HUNDRED THOUSAND;pHREE HUNDRED THOUSAND;
    oFOUR HUNDRED THOUSAND;pIVE HUNDRED THOUSAND;oSIX HUNDRED THOUSAND;pEVEN HUNDRED THOUSAND;
    oEIGHT HUNDRED THOUSAND;oNINE HUNDRED THOUSAND;hFRACTION ONE TWELFTH;qTWO TWELFTHS;
    rHREE TWELFTHS;qFOUR TWELFTHS;rIVE TWELFTHS;qSIX TWELFTHS;rEVEN TWELFTHS;qEIGHT TWELFTHS;
    qNINE TWELFTHS;qTEN TWELFTHS;0KHAROSHTHI LETTER A;bVOWEL SIGN I;mU;mVOCALIC R;10A05=mE;mO;
    10A0C=hLENGTH MARK;bSIGN DOUBLE RING BELOW;gANUSVARA;gVISARGA;bLETTER KA;jHA;iGA;jHA;
    10A15=iCA;jHA;iJA;10A19=iNYA;iTTA;kHA;iDDA;kHA;iNNA;iTA;jHA;iDA;jHA;iNA;iPA;jHA;iBA;jHA;iMA;
    iYA;iRA;iLA;iVA;iSHA;jSA;jA;iZA;iHA;iKKA;iTTTHA;lA;iVHA;10A38=bSIGN BAR ABOVE;gCAUDA;
    gDOT BELOW;10A3F=bVIRAMA;bDIGIT ONE;hTWO;iHREE;hFOUR;bNUMBER TEN;jWENTY;iONE HUNDRED;
    mTHOUSAND;bFRACTION ONE HALF;10A50=bPUNCTUATION DOT;nSMALL CIRCLE;nCIRCLE;oRESCENT BAR;
    nMANGALAM;nLOTUS;nDANDA;oOUBLE DANDA;nLINES;10A60=0OLD SOUTH ARABIAN LETTER HE;pLAMEDH;
    pHETH;pMEM;pQOPH;pWAW;pSHIN;pRESH;pBETH;pTAW;pSAT;pKAPH;pNUN;pKHETH;pSADHE;rMEKH;pFE;pALEF;
    qYN;pDHADHE;pGIMEL;pDALETH;pGHAYN;pTETH;pZAYN;pDHALETH;pYODH;pTHAW;rETH;iNUMBER ONE;pFIFTY;
    lERIC INDICATOR;4NORTH ARABIAN LETTER HEH;pLAM;pHAH;pMEEM;pQAF;pWAW;pES-2;pREH;pBEH;pTEH;
    pES-1;pKAF;pNOON;pKHAH;pSAD;pES-3;pFEH;pALEF;qIN;pDAD;pGEEM;pDAL;pGHAIN;pTAH;pZAIN;pTHAL;
    pYEH;pTHEH;pZAH;iNUMBER ONE;pTEN;qWENTY;10AC0=0MANICHAEAN LETTER ALEPH;iBETH;jHETH;iGIMEL;
    jHIMEL;iDALETH;iHE;iWAW;bSIGN UD;bLETTER ZAYIN;jHAYIN;iJAYIN;jHAYIN;iHETH;iTETH;iYODH;iKAPH;
    iXAPH;iKHAPH;iLAMEDH;iDHAMEDH;iTHAMEDH;iMEM;iNUN;iSAMEKH;iAYIN;jAYIN;iPE;iFE;iSADHE;iQOPH;
    iXOPH;iQHOPH;iRESH;iSHIN;jSHIN;iTAW;bABBREVIATION MARK ABOVE;tBELOW;10AEB=bNUMBER ONE;iFIVE;
    iTEN;jWENTY;iONE HUNDRED;bPUNCTUATION STAR;nFLEURON;nDOUBLE DOT WITHIN DOT;pT WITHIN DOT;q;
    nTWO DOTS;nLINE FILLER;10B00=0AVESTAN LETTER A;gA;gO;gAO;gN;gAN;gE;hE;fE;gE;fO;gO;fI;gI;fU;
    gU;fKE;fXE;gYE;gVE;fGE;gGE;gHE;fCE;fJE;fTE;gHE;fDE;gHE;fTTE;fPE;fFE;fBE;gHE;fNGE;hYE;hVE;gE;
    gYE;gNE;fME;fHME;fYYE;gE;fVE;fRE;fLE;fSE;fZE;fSHE;fZHE;fSHYE;gSHE;fHE;
    10B39=8ABBREVIATION MARK;0TINY TWO DOTS OVER ONE DOT PUNCTUATION;
    0SMALL TWO DOTS OVER ONE DOT PUNCTUATION;0LARGE TWO DOTS OVER ONE DOT PUNCTUATION;
    6ONE DOT OVER TWO DOTS PUNCTUATION;6TWO RINGS OVER ONE RING PUNCTUATION;
    6ONE RING OVER TWO RINGS PUNCTUATION;0INSCRIPTIONAL PARTHIAN LETTER ALEPH;uBETH;uGIMEL;
    uDALETH;uHE;uWAW;uZAYIN;uHETH;uTETH;uYODH;uKAPH;uLAMEDH;uMEM;uNUN;uSAMEKH;uAYIN;uPE;uSADHE;
    uQOPH;uRESH;uSHIN;uTAW;10B58=nNUMBER ONE;uTWO;vHREE;uFOUR;uTEN;vWENTY;uONE HUNDRED;
    yTHOUSAND;gHLAVI LETTER ALEPH;tBETH;tGIMEL;tDALETH;tHE;tWAW-AYIN-RESH;tZAYIN;tHETH;tTETH;
    tYODH;tKAPH;tLAMEDH;tMEM-QOPH;tNUN;tSAMEKH;tPE;tSADHE;uHIN;tTAW;10B78=mNUMBER ONE;tTWO;
    uHREE;tFOUR;tTEN;uWENTY;tONE HUNDRED;xTHOUSAND;0PSALTER PAHLAVI LETTER ALEPH;nBETH;nGIMEL;
    nDALETH;nHE;nWAW-AYIN-RESH;nZAYIN;nHETH;nYODH;nKAPH;nLAMEDH;nMEM-QOPH;nNUN;nSAMEKH;nPE;
    nSADHE;oHIN;nTAW;10B99=gSECTION MARK;gTURNED SECTION MARK;gFOUR DOTS WITH CROSS;vDOT;
    10BA9=gNUMBER ONE;nTWO;oHREE;nFOUR;nTEN;oWENTY;nONE HUNDRED;
    10C00=0OLD TURKIC LETTER ORKHON A;iYENISEI A;rE;iORKHON I;iYENISEI I;qE;iORKHON O;qE;
    iYENISEI OE;iORKHON AB;iYENISEI AB;iORKHON AEB;iYENISEI AEB;iORKHON AG;iYENISEI AG;
    iORKHON AEG;iYENISEI AEG;iORKHON AD;iYENISEI AD;iORKHON AED;pEZ;iYENISEI EZ;iORKHON AY;
    iYENISEI AY;iORKHON AEY;iYENISEI AEY;iORKHON AEK;iYENISEI AEK;iORKHON OEK;iYENISEI OEK;
    iORKHON AL;iYENISEI AL;iORKHON AEL;pELT;qM;pAN;qEN;iYENISEI AEN;iORKHON ENT;iYENISEI ENT;
    iORKHON ENC;iYENISEI ENC;iORKHON ENY;iYENISEI ENY;qANG;iORKHON ENG;iYENISEI AENG;iORKHON EP;
    pOP;pIC;pEC;iYENISEI EC;iORKHON AQ;iYENISEI AQ;iORKHON IQ;iYENISEI IQ;iORKHON OQ;
    iYENISEI OQ;iORKHON AR;iYENISEI AR;iORKHON AER;qS;qES;qSH;iYENISEI ASH;iORKHON ESH;
    iYENISEI ESH;iORKHON AT;iYENISEI AT;iORKHON AET;iYENISEI AET;iORKHON OT;pBASH;
    10C80=4HUNGARIAN CAPITAL LETTER A;uA;tEB;tAMB;tEC;uNC;uCS;uD;tAND;tE;tCLOSE E;tEE;uF;uG;vY;
    uH;tI;uI;tEJ;uK;tAK;tUNK;tEL;vY;uM;uN;vY;tO;uO;tNIKOLSBURG OE;tRUDIMENTA OE;tOEE;tEP;uMP;uR;
    tSHORT ER;tES;vZ;uT;uNT;uTY;uCH;tU;uU;tNIKOLSBURG UE;tRUDIMENTA UE;tEV;uZ;vS;
    uNT-SHAPED SIGN;tUS;10CC0=eSMALL LETTER A;sA;rEB;rAMB;rEC;sNC;sCS;sD;rAND;rE;rCLOSE E;rEE;
    sF;sG;tY;sH;rI;sI;rEJ;sK;rAK;rUNK;rEL;tY;sM;sN;tY;rO;sO;rNIKOLSBURG OE;rRUDIMENTA OE;rOEE;
    rEP;sMP;sR;rSHORT ER;rES;tZ;sT;sNT;sTY;sCH;rU;sU;rNIKOLSBURG UE;rRUDIMENTA UE;rEV;sZ;tS;
    sNT-SHAPED SIGN;rUS;10CFA=eNUMBER ONE;lFIVE;lTEN;lFIFTY;lONE HUNDRED;pTHOUSAND;
    0HANIFI ROHINGYA LETTER A;nBA;nPA;nTA;oTA;nJA;nCA;nHA;nKHA;nFA;nDA;oDA;nRA;oRA;nZA;nSA;oHA;
    nKA;nGA;nLA;nMA;nNA;nWA;nKINNA WA;nYA;nKINNA YA;nNGA;oYA;nVA;gVOWEL A;mI;mU;mE;mO;
    gMARK SAKIN;lNA KHONNA;gSIGN HARBAHAY;lTAHALA;nNA;nSSI;10D30=gDIGIT ZERO;mONE;mTWO;nHREE;
    mFOUR;nIVE;mSIX;nEVEN;mEIGHT;mNINE;10E60=0RUMI DIGIT ONE;bTWO;cHREE;bFOUR;cIVE;bSIX;cEVEN;
    bEIGHT;bNINE;5NUMBER TEN;dWENTY;dHIRTY;cFORTY;dIFTY;cSIXTY;dEVENTY;cEIGHTY;cNINETY;
    cONE HUNDRED;cTWO HUNDRED;dHREE HUNDRED;cFOUR HUNDRED;dIVE HUNDRED;cSIX HUNDRED;
    dEVEN HUNDRED;cEIGHT HUNDRED;cNINE HUNDRED;5FRACTION ONE HALF;iQUARTER;iTHIRD;eTWO THIRDS;
    10E80=0YEZIDI LETTER ELIF;eBE;ePE;fHE;eTHE;eSE;eCIM;fHIM;gHIM;eHHA;eXA;eDAL;eZAL;eRA;fHA;
    eZA;eJA;eSIN;fHIN;fAD;eDAD;eTA;eZE;eEYN;eXHEYN;eFA;eVA;g ALTERNATE FORM;eQAF;eKAF;fHAF;eGAF;
    eLAM;eMIM;eNUN;eUM;eWAW;eOW;eEW;eHAY;eYOT;eET;10EAB=7COMBINING HAMZA MARK;hMADDA MARK;
    7HYPHENATION MARK;10EB0=7LETTER LAM WITH DOT ABOVE;eYOT WITH CIRCUMFLEX ABOVE;
    10F00=0OLD SOGDIAN LETTER ALEPH;jFINAL ALEPH;jBETH;jFINAL BETH;jGIMEL;jHE;jFINAL HE;jWAW;
    jZAYIN;jHETH;jYODH;jKAPH;jLAMEDH;jMEM;jNUN;jFINAL NUN;s WITH VERTICAL TAIL;jSAMEKH;jAYIN;
    kLTERNATE AYIN;jPE;jSADHE;jFINAL SADHE;u WITH VERTICAL TAIL;jRESH-AYIN-DALETH;jSHIN;jTAW;
    jFINAL TAW;s WITH VERTICAL TAIL;cNUMBER ONE;jTWO;kHREE;jFOUR;kIVE;jTEN;kWENTY;kHIRTY;
    jONE HUNDRED;cFRACTION ONE HALF;cLIGATURE AYIN-DALETH;10F30=0SOGDIAN LETTER ALEPH;fBETH;
    fGIMEL;fHE;fWAW;fZAYIN;fHETH;fYODH;fKAPH;fLAMEDH;fMEM;fNUN;fSAMEKH;fAYIN;fPE;fSADHE;
    fRESH-AYIN;fSHIN;fTAW;fFETH;fLESH;8INDEPENDENT SHIN;8COMBINING DOT BELOW;iTWO DOTS BELOW;
    iDOT ABOVE;iTWO DOTS ABOVE;iCURVE ABOVE;oBELOW;iHOOK ABOVE;nBELOW;iLONG HOOK BELOW;
    iRESH BELOW;iSTROKE BELOW;8NUMBER ONE;fTEN;gWENTY;fONE HUNDRED;
    8PUNCTUATION TWO VERTICAL BARS;B WITH DOTS;kCIRCLE WITH DOT;kTWO CIRCLES WITH DOTS;
    kHALF CIRCLE WITH DOT;10F70=0OLD UYGHUR LETTER ALEPH;iBETH;iGIMEL-HETH;iWAW;iZAYIN;
    iFINAL HETH;iYODH;iKAPH;iLAMEDH;iMEM;iNUN;iSAMEKH;iPE;iSADHE;iRESH;iSHIN;iTAW;iLESH;
    bCOMBINING DOT ABOVE;pBELOW;lTWO DOTS ABOVE;uBELOW;bPUNCTUATION BAR;nTWO BARS;rDOTS;
    nFOUR DOTS;10FB0=0CHORASMIAN LETTER ALEPH;iSMALL ALEPH;iBETH;iGIMEL;iDALETH;iHE;iWAW;
    iCURLED WAW;iZAYIN;iHETH;iYODH;iKAPH;iLAMEDH;iMEM;iNUN;iSAMEKH;iAYIN;iPE;iRESH;iSHIN;iTAW;
    bNUMBER ONE;iTWO;jHREE;iFOUR;iTEN;jWENTY;iONE HUNDRED;10FE0=0ELYMAIC LETTER ALEPH;fBETH;
    fGIMEL;fDALETH;fHE;fWAW;fZAYIN;fHETH;fTETH;fYODH;fKAPH;fLAMEDH;fMEM;fNUN;fSAMEKH;fAYIN;fPE;
    fSADHE;fQOPH;fRESH;fSHIN;fTAW;9IGATURE ZAYIN-YODH;11000=0BRAHMI SIGN CANDRABINDU;cANUSVARA;
    cVISARGA;cJIHVAMULIYA;cUPADHMANIYA;7LETTER A;fA;eI;fI;eU;fU;eVOCALIC R;nR;mL;nL;eE;eAI;eO;
    eAU;eKA;fHA;eGA;fHA;eNGA;eCA;fHA;eJA;fHA;eNYA;eTTA;gHA;eDDA;gHA;eNNA;eTA;fHA;eDA;fHA;eNA;
    ePA;fHA;eBA;fHA;eMA;eYA;eRA;eLA;eVA;eSHA;fSA;fA;eHA;eLLA;eOLD TAMIL LLLA;oRRA;oNNNA;
    7VOWEL SIGN AA;iBHATTIPROLU AA;iI;jI;iU;jU;iVOCALIC R;rR;qL;rL;iE;iAI;iO;iAU;8IRAMA;7DANDA;
    8OUBLE DANDA;7PUNCTUATION DOT;lUBLE DOT;jLINE;jCRESCENT BAR;jLOTUS;11052=7NUMBER ONE;eTWO;
    fHREE;eFOUR;fIVE;eSIX;fEVEN;eEIGHT;eNINE;eTEN;fWENTY;fHIRTY;eFORTY;fIFTY;eSIXTY;fEVENTY;
    eEIGHTY;eNINETY;eONE HUNDRED;iTHOUSAND;7DIGIT ZERO;dONE;dTWO;eHREE;dFOUR;eIVE;dSIX;eEVEN;
    dEIGHT;dNINE;7SIGN OLD TAMIL VIRAMA;7LETTER OLD TAMIL SHORT E;uO;
    7VOWEL SIGN OLD TAMIL SHORT E;yO;7LETTER OLD TAMIL LLA;1107F=7NUMBER JOINER;
    0KAITHI SIGN CANDRABINDU;cANUSVARA;cVISARGA;7LETTER A;fA;eI;fI;eU;fU;eE;eAI;eO;eAU;eKA;fHA;
    eGA;fHA;eNGA;eCA;fHA;eJA;fHA;eNYA;eTTA;gHA;eDDA;gDHA;gHA;eRHA;eNNA;eTA;fHA;eDA;fHA;eNA;ePA;
    fHA;eBA;fHA;eMA;eYA;eRA;eLA;eVA;eSHA;fSA;fA;eHA;7VOWEL SIGN AA;iI;jI;iU;jU;iE;iAI;iO;iAU;
    7SIGN VIRAMA;cNUKTA;7ABBREVIATION SIGN;7ENUMERATION SIGN;7NUMBER SIGN;7SECTION MARK;
    7DOUBLE SECTION MARK;8ANDA;8OUBLE DANDA;7VOWEL SIGN VOCALIC R;110CD=7NUMBER SIGN ABOVE;
    110D0=0SORA SOMPENG LETTER SAH;kTAH;kBAH;kCAH;kDAH;kGAH;kMAH;kNGAH;kLAH;kNAH;kVAH;kPAH;kYAH;
    kRAH;kHAH;kKAH;kJAH;kNYAH;kAH;kEEH;kIH;kUH;kOH;kEH;kMAE;110F0=dDIGIT ZERO;jONE;jTWO;kHREE;
    jFOUR;kIVE;jSIX;kEVEN;jEIGHT;jNINE;11100=0CHAKMA SIGN CANDRABINDU;cANUSVARA;cVISARGA;
    7LETTER AA;eI;eU;eE;eKAA;fHAA;eGAA;fHAA;eNGAA;eCAA;fHAA;eJAA;fHAA;eNYAA;eTTAA;gHAA;eDDAA;
    gHAA;eNNAA;eTAA;fHAA;eDAA;fHAA;eNAA;ePAA;fHAA;eBAA;fHAA;eMAA;eYYAA;fAA;eRAA;eLAA;eWAA;eSAA;
    eHAA;7VOWEL SIGN A;iI;jI;iU;jU;iE;iAI;iO;iAU;iOI;7O MARK;7AU MARK;7VIRAMA;7MAAYYAA;
    11136=7DIGIT ZERO;dONE;dTWO;eHREE;dFOUR;eIVE;dSIX;eEVEN;dEIGHT;dNINE;7SECTION MARK;7DANDA;
    8OUBLE DANDA;7QUESTION MARK;7LETTER LHAA;7VOWEL SIGN AA;iEI;7LETTER VAA;
    11150=0MAHAJANI LETTER A;gI;gU;gE;gO;gKA;hHA;gGA;hHA;gCA;hHA;gJA;hHA;gNYA;gTTA;iHA;gDDA;iHA;
    gNNA;gTA;hHA;gDA;hHA;gNA;gPA;hHA;gBA;hHA;gMA;gRA;gLA;gVA;gSA;gHA;gRRA;9SIGN NUKTA;
    9ABBREVIATION SIGN;9SECTION MARK;9LIGATURE SHRI;11180=0SHARADA SIGN CANDRABINDU;dANUSVARA;
    dVISARGA;8LETTER A;gA;fI;gI;fU;gU;fVOCALIC R;oR;nL;oL;fE;fAI;fO;fAU;fKA;gHA;fGA;gHA;fNGA;
    fCA;gHA;fJA;gHA;fNYA;fTTA;hHA;fDDA;hHA;fNNA;fTA;gHA;fDA;gHA;fNA;fPA;gHA;fBA;gHA;fMA;fYA;fRA;
    fLA;gLA;fVA;fSHA;gSA;gA;fHA;8VOWEL SIGN AA;jI;kI;jU;kU;jVOCALIC R;sR;rL;sL;jE;jAI;jO;jAU;
    8SIGN VIRAMA;dAVAGRAHA;dJIHVAMULIYA;dUPADHMANIYA;8OM;8DANDA;9OUBLE DANDA;8ABBREVIATION SIGN;
    8SEPARATOR;9ANDHI MARK;9IGN NUKTA;8VOWEL MODIFIER MARK;8EXTRA SHORT VOWEL MARK;8SUTRA MARK;
    8VOWEL SIGN PRISHTHAMATRA E;8SIGN INVERTED CANDRABINDU;8DIGIT ZERO;eONE;eTWO;fHREE;eFOUR;
    fIVE;eSIX;fEVEN;eEIGHT;eNINE;8EKAM;8SIGN SIDDHAM;8HEADSTROKE;8CONTINUATION SIGN;
    8SECTION MARK-1;l2;111E1=1INHALA ARCHAIC DIGIT ONE;mTWO;nHREE;mFOUR;nIVE;mSIX;nEVEN;mEIGHT;
    mNINE;gNUMBER TEN;oWENTY;oHIRTY;nFORTY;oIFTY;nSIXTY;oEVENTY;nEIGHTY;nNINETY;nONE HUNDRED;
    rTHOUSAND;11200=0KHOJKI LETTER A;fA;eI;eU;eE;eAI;eO;eAU;eKA;fHA;eGA;fGA;fHA;eNGA;eCA;fHA;
    eJA;fJA;11213=eNYA;eTTA;gHA;eDDA;gHA;eNNA;eTA;fHA;eDA;fDDA;fHA;eNA;ePA;fHA;eBA;fBA;fHA;eMA;
    eYA;eRA;eLA;eVA;eSA;eHA;eLLA;7VOWEL SIGN AA;iI;jI;iU;iE;iAI;iO;iAU;7SIGN ANUSVARA;cVIRAMA;
    cNUKTA;cSHADDA;7DANDA;8OUBLE DANDA;7WORD SEPARATOR;7SECTION MARK;7DOUBLE SECTION MARK;
    7ABBREVIATION SIGN;7SIGN SUKUN;11280=0MULTANI LETTER A;fI;fU;fE;fKA;gHA;fGA;11288=gHA;
    1128A=fCA;gHA;fJA;gJA;1128F=fNYA;fTTA;hHA;fDDA;hDA;hHA;fNNA;fTA;gHA;fDA;gHA;fNA;fPA;gHA;fBA;
    1129F=gHA;fMA;fYA;fRA;fLA;fVA;fSA;fHA;fRRA;gHA;8SECTION MARK;112B0=0KHUDAWADI LETTER A;iA;
    hI;iI;hU;iU;hE;hAI;hO;hAU;hKA;iHA;hGA;iGA;iHA;hNGA;hCA;iHA;hJA;iJA;iHA;hNYA;hTTA;jHA;hDDA;
    jDA;hRRA;hDDHA;hNNA;hTA;iHA;hDA;iHA;hNA;hPA;iHA;hBA;iBA;iHA;hMA;hYA;hRA;hLA;hVA;hSHA;iA;hHA;
    aSIGN ANUSVARA;aVOWEL SIGN AA;lI;mI;lU;mU;lE;lAI;lO;lAU;aSIGN NUKTA;fVIRAMA;
    112F0=aDIGIT ZERO;gONE;gTWO;hHREE;gFOUR;hIVE;gSIX;hEVEN;gEIGHT;gNINE;
    11300=0GRANTHA SIGN COMBINING ANUSVARA ABOVE;eANDRABINDU;dANUSVARA;dVISARGA;11305=8LETTER A;
    gA;fI;gI;fU;gU;fVOCALIC R;nL;1130F=fEE;fAI;11313=fOO;fAU;fKA;gHA;fGA;gHA;fNGA;fCA;gHA;fJA;
    gHA;fNYA;fTTA;hHA;fDDA;hHA;fNNA;fTA;gHA;fDA;gHA;fNA;1132A=fPA;gHA;fBA;gHA;fMA;fYA;fRA;
    11332=fLA;gLA;11335=fVA;fSHA;gSA;gA;fHA;1133B=0COMBINING BINDU BELOW;0GRANTHA SIGN NUKTA;
    dAVAGRAHA;8VOWEL SIGN AA;jI;kI;jU;kU;jVOCALIC R;sR;11347=jEE;jAI;1134B=jOO;jAU;8SIGN VIRAMA;
    11350=8OM;11357=8AU LENGTH MARK;1135D=8SIGN PLUTA;8LETTER VEDIC ANUSVARA;lDOUBLE ANUSVARA;
    gOCALIC RR;nLL;8VOWEL SIGN VOCALIC L;sL;11366=0COMBINING GRANTHA DIGIT ZERO;oONE;oTWO;pHREE;
    oFOUR;pIVE;oSIX;11370=iLETTER A;pKA;pNA;pVI;pPA;11400=0NEWA LETTER A;dA;cI;dI;cU;dU;
    cVOCALIC R;lR;kL;lL;cE;cAI;cO;cAU;cKA;dHA;cGA;dHA;cNGA;eHA;cCA;dHA;cJA;dHA;cNYA;eHA;cTTA;
    eHA;cDDA;eHA;cNNA;cTA;dHA;cDA;dHA;cNA;dHA;cPA;dHA;cBA;dHA;cMA;dHA;cYA;cRA;dHA;cLA;dHA;cWA;
    cSHA;dSA;dA;cHA;5VOWEL SIGN AA;gI;hI;gU;hU;gVOCALIC R;pR;oL;pL;gE;gAI;gO;gAU;5SIGN VIRAMA;
    aCANDRABINDU;aANUSVARA;aVISARGA;aNUKTA;aAVAGRAHA;aFINAL ANUSVARA;5OM;5SIDDHI;5DANDA;
    6OUBLE DANDA;5COMMA;5GAP FILLER;5ABBREVIATION SIGN;5DIGIT ZERO;bONE;bTWO;cHREE;bFOUR;cIVE;
    bSIX;cEVEN;bEIGHT;bNINE;6OUBLE COMMA;5PLACEHOLDER MARK;1145D=5INSERTION SIGN;5SANDHI MARK;
    5LETTER VEDIC ANUSVARA;5SIGN JIHVAMULIYA;aUPADHMANIYA;11480=0TIRHUTA ANJI;8LETTER A;gA;fI;
    gI;fU;gU;fVOCALIC R;oR;nL;oL;fE;fAI;fO;fAU;fKA;gHA;fGA;gHA;fNGA;fCA;gHA;fJA;gHA;fNYA;fTTA;
    hHA;fDDA;hHA;fNNA;fTA;gHA;fDA;gHA;fNA;fPA;gHA;fBA;gHA;fMA;fYA;fRA;fLA;fVA;fSHA;gSA;gA;fHA;
    8VOWEL SIGN AA;jI;kI;jU;kU;jVOCALIC R;sR;rL;sL;jE;jSHORT E;jAI;jO;jSHORT O;jAU;
    8SIGN CANDRABINDU;dANUSVARA;dVISARGA;fRAMA;dNUKTA;dAVAGRAHA;8GVANG;8ABBREVIATION SIGN;8OM;
    114D0=8DIGIT ZERO;eONE;eTWO;fHREE;eFOUR;fIVE;eSIX;fEVEN;eEIGHT;eNINE;
    11580=0SIDDHAM LETTER A;gA;fI;gI;fU;gU;fVOCALIC R;oR;nL;oL;fE;fAI;fO;fAU;fKA;gHA;fGA;gHA;
    fNGA;fCA;gHA;fJA;gHA;fNYA;fTTA;hHA;fDDA;hHA;fNNA;fTA;gHA;fDA;gHA;fNA;fPA;gHA;fBA;gHA;fMA;
    fYA;fRA;fLA;fVA;fSHA;gSA;gA;fHA;8VOWEL SIGN AA;jI;kI;jU;kU;jVOCALIC R;sR;115B8=jE;jAI;jO;
    jAU;8SIGN CANDRABINDU;dANUSVARA;dVISARGA;fRAMA;dNUKTA;dSIDDHAM;8DANDA;9OUBLE DANDA;
    8SEPARATOR DOT;iBAR;8REPETITION MARK-1;o2;o3;8END OF TEXT MARK;
    8SECTION MARK WITH TRIDENT AND U-SHAPED ORNAMENTS;CDOTTED CRESCENTS;
    qRAYS AND DOTTED CRESCENTS;GDOUBLE CRESCENTS;GTRIPLE CRESCENTS;lDOUBLE RING;w WITH RAYS;
    lWITH DOUBLE CRESCENTS;qTRIPLE CRESCENTS;qQUADRUPLE CRESCENTS;qSEPTUPLE CRESCENTS;
    qCIRCLES AND RAYS;CTWO ENCLOSURES;CFOUR ENCLOSURES;8LETTER THREE-CIRCLE ALTERNATE I;
    gWO-CIRCLE ALTERNATE I;BI;fALTERNATE U;8VOWEL SIGN ALTERNATE U;uU;11600=0MODI LETTER A;dA;
    cI;dI;cU;dU;cVOCALIC R;lR;kL;lL;cE;cAI;cO;cAU;cKA;dHA;cGA;dHA;cNGA;cCA;dHA;cJA;dHA;cNYA;
    cTTA;eHA;cDDA;eHA;cNNA;cTA;dHA;cDA;dHA;cNA;cPA;dHA;cBA;dHA;cMA;cYA;cRA;cLA;cVA;cSHA;dSA;dA;
    cHA;cLLA;5VOWEL SIGN AA;gI;hI;gU;hU;gVOCALIC R;pR;oL;pL;gE;gAI;gO;gAU;5SIGN ANUSVARA;
    aVISARGA;cRAMA;aARDHACANDRA;5DANDA;6OUBLE DANDA;5ABBREVIATION SIGN;5SIGN HUVA;
    11650=5DIGIT ZERO;bONE;bTWO;cHREE;bFOUR;cIVE;bSIX;cEVEN;bEIGHT;bNINE;
    11660=2NGOLIAN BIRGA WITH ORNAMENT;aROTATED BIRGA;aDOUBLE BIRGA WITH ORNAMENT;
    aTRIPLE BIRGA WITH ORNAMENT;aBIRGA WITH DOUBLE ORNAMENT;aROTATED BIRGA WITH ORNAMENT;
    tDOUBLE ORNAMENT;aINVERTED BIRGA;o WITH DOUBLE ORNAMENT;aSWIRL BIRGA;l WITH ORNAMENT;
    rDOUBLE ORNAMENT;aTURNED SWIRL BIRGA WITH DOUBLE ORNAMENT;11680=0TAKRI LETTER A;eA;dI;eI;dU;
    eU;dE;dAI;dO;dAU;dKA;eHA;dGA;eHA;dNGA;dCA;eHA;dJA;eHA;dNYA;dTTA;fHA;dDDA;fHA;dNNA;dTA;eHA;
    dDA;eHA;dNA;dPA;eHA;dBA;eHA;dMA;dYA;dRA;dLA;dVA;dSHA;eA;dHA;dRRA;6SIGN ANUSVARA;bVISARGA;
    6VOWEL SIGN AA;hI;iI;hU;iU;hE;hAI;hO;hAU;6SIGN VIRAMA;bNUKTA;6LETTER ARCHAIC KHA;
    6ABBREVIATION SIGN;116C0=6DIGIT ZERO;cONE;cTWO;dHREE;cFOUR;dIVE;cSIX;dEVEN;cEIGHT;cNINE;
    11700=0AHOM LETTER KA;dHA;cNGA;dA;cTA;cALTERNATE TA;cPA;dHA;cBA;cMA;cJA;cCHA;cTHA;cRA;cLA;
    cSA;cNYA;cHA;cA;cDA;dHA;cGA;cALTERNATE GA;cGHA;cBHA;cJHA;cALTERNATE BA;
    1171D=5CONSONANT SIGN MEDIAL LA;rRA;rLIGATING RA;5VOWEL SIGN A;hA;gI;hI;gU;hU;gE;gAW;gO;gAI;
    hM;5SIGN KILLER;11730=5DIGIT ZERO;bONE;bTWO;cHREE;bFOUR;cIVE;bSIX;cEVEN;bEIGHT;bNINE;
    5NUMBER TEN;dWENTY;5SIGN SMALL SECTION;bECTION;aRULAI;6YMBOL VI;5LETTER CA;cTTA;eHA;cDDA;
    eHA;cNNA;cLLA;11800=0DOGRA LETTER A;eA;dI;eI;dU;eU;dE;dAI;dO;dAU;dKA;eHA;dGA;eHA;dNGA;dCA;
    eHA;dJA;eHA;dNYA;dTTA;fHA;dDDA;fHA;dNNA;dTA;eHA;dDA;eHA;dNA;dPA;eHA;dBA;eHA;dMA;dYA;dRA;dLA;
    dVA;dSHA;eSA;eA;dHA;dRRA;6VOWEL SIGN AA;hI;iI;hU;iU;hVOCALIC R;qR;hE;hAI;hO;hAU;
    6SIGN ANUSVARA;bVISARGA;dRAMA;bNUKTA;6ABBREVIATION SIGN;
    118A0=0WARANG CITI CAPITAL LETTER NGAA;rA;rWI;rYU;sA;sO;rII;rUU;rE;rO;rANG;rGA;rKO;rENY;
    rYUJ;rUC;rENN;rODD;rTTE;rNUNG;rDA;rAT;sM;rBU;rPU;rHIYO;sOLO;tRR;sAR;rSSUU;sII;rVIYO;
    cSMALL LETTER NGAA;pA;pWI;pYU;qA;qO;pII;pUU;pE;pO;pANG;pGA;pKO;pENY;pYUJ;pUC;pENN;pODD;pTTE;
    pNUNG;pDA;pAT;qM;pBU;pPU;pHIYO;qOLO;rRR;qAR;pSSUU;qII;pVIYO;cDIGIT ZERO;iONE;iTWO;jHREE;
    iFOUR;jIVE;iSIX;jEVEN;iEIGHT;iNINE;cNUMBER TEN;kWENTY;kHIRTY;jFORTY;kIFTY;jSIXTY;kEVENTY;
    jEIGHTY;jNINETY;118FF=cOM;0DIVES AKURU LETTER A;kA;jI;kI;jU;kU;jE;11909=jO;1190C=jKA;kHA;
    jGA;kHA;jNGA;jCA;kHA;jJA;11915=jNYA;jTTA;11918=jDDA;lHA;jNNA;jTA;kHA;jDA;kHA;jNA;jPA;kHA;
    jBA;kHA;jMA;jYA;kYA;jRA;jLA;jVA;jSHA;kSA;kA;jHA;jLLA;jZA;cVOWEL SIGN AA;nI;oI;nU;oU;nE;
    11937=nAI;nO;1193B=cSIGN ANUSVARA;hCANDRABINDU;hHALANTA;cVIRAMA;cPREFIXED NASAL SIGN;
    cMEDIAL YA;cINITIAL RA;cMEDIAL RA;cSIGN NUKTA;cDOUBLE DANDA;cGAP FILLER;cEND OF TEXT MARK;
    11950=cDIGIT ZERO;iONE;iTWO;jHREE;iFOUR;jIVE;iSIX;jEVEN;iEIGHT;iNINE;
    119A0=0NANDINAGARI LETTER A;kA;jI;kI;jU;kU;jVOCALIC R;sR;119AA=jE;jAI;jO;jAU;jKA;kHA;jGA;
    kHA;jNGA;jCA;kHA;jJA;kHA;jNYA;jTTA;lHA;jDDA;lHA;jNNA;jTA;kHA;jDA;kHA;jNA;jPA;kHA;jBA;kHA;
    jMA;jYA;jRA;jLA;jVA;jSHA;kSA;kA;jHA;jLLA;jRRA;cVOWEL SIGN AA;nI;oI;nU;oU;nVOCALIC R;wR;
    119DA=nE;nAI;nO;nAU;cSIGN ANUSVARA;hVISARGA;jRAMA;hAVAGRAHA;hSIDDHAM;cHEADSTROKE;
    cVOWEL SIGN PRISHTHAMATRA E;11A00=0ZANABAZAR SQUARE LETTER A;hVOWEL SIGN I;sUE;t;sE;sOE;t;
    sAI;tU;sREVERSED I;nLENGTH MARK;hLETTER KA;pHA;oGA;pHA;oNGA;oCA;pHA;oJA;oNYA;oTTA;qHA;oDDA;
    qHA;oNNA;oTA;pHA;oDA;pHA;oNA;oPA;pHA;oBA;pHA;oMA;oTSA;qHA;oDZA;qHA;oZHA;pA;o-A;oYA;oRA;oLA;
    oVA;oSHA;pSA;pA;oHA;oKSSA;hFINAL CONSONANT MARK;hSIGN VIRAMA;mCANDRABINDU;x WITH ORNAMENT;
    s WITH ORNAMENT;mANUSVARA;mVISARGA;hCLUSTER-INITIAL LETTER RA;pFINAL LETTER YA;CRA;CLA;CVA;
    hINITIAL HEAD MARK;hCLOSING HEAD MARK;hMARK TSHEG;mSHAD;mDOUBLE SHAD;mLONG TSHEG;
    hINITIAL DOUBLE-LINED HEAD MARK;hCLOSING DOUBLE-LINED HEAD MARK;hSUBJOINER;
    11A50=0SOYOMBO LETTER A;8VOWEL SIGN I;jUE;k;jE;jO;kE;jAI;kU;jVOCALIC R;rL;eLENGTH MARK;
    8LETTER KA;gHA;fGA;gHA;fNGA;fCA;gHA;fJA;gHA;fNYA;fTTA;hHA;fDDA;hHA;fNNA;fTA;gHA;fDA;gHA;fNA;
    fPA;gHA;fBA;gHA;fMA;fTSA;hHA;fDZA;fZHA;gA;f-A;fYA;fRA;fLA;fVA;fSHA;gSA;gA;fHA;fKSSA;
    8SIGN JIHVAMULIYA;dUPADHMANIYA;8CLUSTER-INITIAL LETTER RA;vLA;vSHA;wA;
    8FINAL CONSONANT SIGN G;tK;tNG;tD;tN;tB;tM;tR;tL;tSH;u;t-A;8SIGN ANUSVARA;dVISARGA;
    8GEMINATION MARK;8SUBJOINER;8MARK TSHEG;dSHAD;dDOUBLE SHAD;dPLUTA;
    8HEAD MARK WITH MOON AND SUN AND TRIPLE FLAME;EFLAME;z;8TERMINAL MARK-1;m2;
    11AB0=0CANADIAN SYLLABICS NATTILIK HI;uI;tO;uO;tA;uA;sSHRI;wI;vO;wO;vA;wA;jSPE;lI;lO;lA;
    0PAU CIN HAU LETTER PA;jKA;jLA;jMA;jDA;jZA;jVA;jNGA;jHA;jGA;jKHA;jSA;jBA;jCA;jTA;kHA;jNA;
    jPHA;jRA;jFA;jCHA;jA;jE;jI;jO;jU;kA;jIA;jFINAL P;pK;pT;pM;pN;pL;pW;pNG;pY;cRISING TONE LONG;
    n;cSANDHI GLOTTAL STOP;cRISING TONE LONG FINAL;oFINAL;cSANDHI GLOTTAL STOP FINAL;jTONE LONG;
    n;n LONG FINAL;oFINAL;cMID-LEVEL TONE;cGLOTTAL STOP VARIANT;cMID-LEVEL TONE LONG FINAL;
    rFINAL;cLOW-FALLING TONE LONG;s;cGLOTTAL STOP;cLOW-FALLING TONE LONG FINAL;tFINAL;
    cGLOTTAL STOP FINAL;11C00=0BHAIKSUKI LETTER A;iA;hI;iI;hU;iU;hVOCALIC R;qR;pL;11C0A=hE;hAI;
    hO;hAU;hKA;iHA;hGA;iHA;hNGA;hCA;iHA;hJA;iHA;hNYA;hTTA;jHA;hDDA;jHA;hNNA;hTA;iHA;hDA;iHA;hNA;
    hPA;iHA;hBA;iHA;hMA;hYA;hRA;hLA;hVA;hSHA;iSA;iA;hHA;aVOWEL SIGN AA;lI;mI;lU;mU;lVOCALIC R;
    uR;tL;11C38=lE;lAI;lO;lAU;aSIGN CANDRABINDU;fANUSVARA;fVISARGA;hRAMA;fAVAGRAHA;aDANDA;
    bOUBLE DANDA;aWORD SEPARATOR;aGAP FILLER-1;l2;11C50=aDIGIT ZERO;gONE;gTWO;hHREE;gFOUR;hIVE;
    gSIX;hEVEN;gEIGHT;gNINE;aNUMBER ONE;hTWO;iHREE;hFOUR;iIVE;hSIX;iEVEN;hEIGHT;hNINE;hTEN;
    iWENTY;iHIRTY;hFORTY;iIFTY;hSIXTY;iEVENTY;hEIGHTY;hNINETY;aHUNDREDS UNIT MARK;
    11C70=0MARCHEN HEAD MARK;8MARK SHAD;8LETTER KA;gHA;fGA;fNGA;fCA;gHA;fJA;fNYA;fTA;gHA;fDA;
    fNA;fPA;gHA;fBA;fMA;fTSA;hHA;fDZA;fWA;fZHA;gA;f-A;fYA;fRA;fLA;fSHA;gA;fHA;fA;
    11C92=8SUBJOINED LETTER KA;qHA;pGA;pNGA;pCA;qHA;pJA;pNYA;pTA;qHA;pDA;pNA;pPA;qHA;pBA;pMA;
    pTSA;rHA;pDZA;pWA;pZHA;qA;11CA9=pYA;pRA;pLA;pSHA;qA;pHA;pA;8VOWEL SIGN AA;jI;jU;jE;jO;
    8SIGN ANUSVARA;dCANDRABINDU;11D00=2SARAM GONDI LETTER A;mA;lI;mI;lU;mU;lE;11D08=lAI;lO;
    11D0B=lAU;lKA;mHA;lGA;mHA;lNGA;lCA;mHA;lJA;mHA;lNYA;lTTA;nHA;lDDA;nHA;lNNA;lTA;mHA;lDA;mHA;
    lNA;lPA;mHA;lBA;mHA;lMA;lYA;lRA;lLA;lVA;lSHA;mSA;mA;lHA;lLLA;lKSSA;lJNYA;lTRA;
    eVOWEL SIGN AA;pI;qI;pU;qU;pVOCALIC R;11D3A=pE;11D3C=pAI;pO;11D3F=pAU;eSIGN ANUSVARA;
    jVISARGA;jNUKTA;jCANDRA;jHALANTA;eVIRAMA;eREPHA;fA-KARA;11D50=eDIGIT ZERO;kONE;kTWO;lHREE;
    kFOUR;lIVE;kSIX;lEVEN;kEIGHT;kNINE;11D60=0GUNJALA GONDI LETTER A;mA;lI;mI;lU;mU;11D67=lEE;
    lAI;11D6A=lOO;lAU;lYA;lVA;lBA;mHA;lMA;lKA;mHA;lTA;mHA;lLA;lGA;mHA;lDA;mHA;lNA;lCA;mHA;lTTA;
    nHA;lLLA;lJA;mHA;lDDA;nHA;lNGA;lPA;mHA;lHA;lRA;lSA;eVOWEL SIGN AA;pI;qI;pU;qU;11D90=pEE;pAI;
    11D93=pOO;pAU;eSIGN ANUSVARA;jVISARGA;eVIRAMA;eOM;11DA0=eDIGIT ZERO;kONE;kTWO;lHREE;kFOUR;
    lIVE;kSIX;lEVEN;kEIGHT;kNINE;11EE0=0MAKASAR LETTER KA;fGA;fNGA;fPA;fBA;fMA;fTA;fDA;fNA;fCA;
    fJA;fNYA;fYA;fRA;fLA;fVA;fSA;fA;8ANGKA;8VOWEL SIGN I;jU;jE;jO;8PASSIMBANG;8END OF SECTION;
    11FB0=0LISU LETTER YHA;11FC0=0TAMIL FRACTION ONE THREE-HUNDRED-AND-TWENTIETH;
    jONE-HUNDRED-AND-SIXTIETH;jEIGHTIETH;jSIXTY-FOURTH;jFORTIETH;jTHIRTY-SECOND;
    fTHREE EIGHTIETHS;lSIXTY-FOURTHS;fONE TWENTIETH;jSIXTEENTH-1;t2;jTENTH;jEIGHTH;
    fTHREE TWENTIETHS;lSIXTEENTHS;fONE FIFTH;jQUARTER;jHALF-1;o2;fTHREE QUARTERS;
    fDOWNSCALING FACTOR KIIZH;6SIGN NEL;bCEVITU;bAAZHAAKKU;bUZHAKKU;bMUUVUZHAKKU;bKURUNI;
    bPATHAKKU;bMUKKURUNI;bKAACU;bPANAM;cON;bVARAAKAN;bPAARAM;bKUZHI;bVELI;6WET CULTIVATION SIGN;
    6DRY CULTIVATION SIGN;6LAND SIGN;6SALT PAN SIGN;6TRADITIONAL CREDIT SIGN;iNUMBER SIGN;
    6CURRENT SIGN;6AND ODD SIGN;6SPENT SIGN;6TOTAL SIGN;6IN POSSESSION SIGN;6STARTING FROM SIGN;
    7IGN MUTHALIYA;bVAKAIYARAA;11FFF=6PUNCTUATION END OF TEXT;0CUNEIFORM SIGN A;g TIMES A;nBAD;
    nGAN2 TENU;nHA;nIGI;nLAGAR GUNU;nMUSH;nSAG;g2;gB;h TIMES ASH2;oDUN3 GUNU;oGAL;qN2 TENU;oHA;
    oIGI GUNU;pMIN;oLAGAB;oSHESH;oU PLUS U PLUS U;iGUNU;h2;i TIMES BALAG;pGAN2 TENU;pME PLUS EN;
    pSHA3;pTAK4;gD;gK;h TIMES ERIN2;oSHITA PLUS GISH;gL;h TIMES AL;oDIM2;oGISH;oHA;oKAD3;pI;
    oSHE;oUSH;hAN;hEPH;gMAR;j TIMES SHE;gN;h OVER AN;iTHREE TIMES;
    iPLUS NAGA OPPOSING AN PLUS NAGA;sSQUARED;hSHE;gPIN;gRAD;j TIMES KUR;hKAB;gSAL2;hH;
    i ZIDA TENU;jKABA TENU;jOVER ASH TUG2 OVER TUG2 TUG2 OVER TUG2 PAP;sOVER ASH;
    A CROSSING ASH OVER ASH OVER ASH;i2;iGAB;fBA;hD;hG3;hHAR2;hL;i OVER BAL;iAG;hR;iA2;gI;
    h TIMES A;oGAR;oIGI GUNU;gU;h OVER BU AB;qUN;iCROSSING BU;hLUG;k OVER BULUG;hR;i2;fDA;hG;
    i KISIM5 TIMES A PLUS MASH;xMAR;wBALAG;xI;wGA;y PLUS MASH;xI;yR2;xUD;wHA;wIR;y PLUS LU;wKAK;
    wLA;xU;y PLUS MASH2;yM;wNE;wPAP PLUS PAP;wSI;wTAK4;wU2 PLUS GIR2;xSH;hM;hR;iA3;j4;gI;hB;hM;
    i TIMES SHE;i2;hN;i KASKAL U GUNU DISH;hSH;gU;h OVER DU;iGUNU;iSHESHIG;hB;i TIMES ESH2;i2;
    hG;iUD;hH;hN;i3;j GUNU;o GUNU;i4;hR2;fE;g TIMES PAP;hOVER E NUN OVER NUN;g2;
    h TIMES A PLUS HA PLUS DA;oGAR;oMI;oSAL;pHE;oU;gDIN;gGIR;gL;gN;h TIMES GAN2;s TENU;oME;
    iCROSSING EN;iOPPOSING EN;iSQUARED;gREN;hIN2;gSH2;gZEN;j TIMES A;r PLUS LAL;A TIMES LAL;rN;
    qBAD;qDUN3 GUNU;z GUNU;qHA;s GUNU;qIGI GUNU;qKASKAL;w SQUARED;rU3;qLA;sL TIMES LAL;rI;rU;
    qU2;rD;fGA;h GUNU;h2;i TIMES A PLUS DA PLUS HA;wHA;wIGI;qB2 TENU PLUS TAB;qN;qSH;
    s2 PLUS GAL;pBAD;rR PLUS RA;qUR;s PLUS RA;pDA;qI;rM TIMES SHE;qUB;pEL;r PLUS LA;qN;
    r TIMES GAN2 TENU;pGAN2 TENU;rR;qI;r4;s PLUS A;rR2 PLUS SU;pHA PLUS LU PLUS ESH2;rL;
    s PLUS LA;qI PLUS LI;qUB2;pIGI GUNU;qSH PLUS HU PLUS ASH;pKAK;rSKAL;qID;s PLUS LAL;
    qU3 PLUS AN;pLA;pME PLUS EN;qI;pNUN;s OVER NUN;pPA;pSAL;rR;qHE;s PLUS TUR;rID;qUM;pTAK4;pU;
    qD;r PLUS DU;jOVER GA2;hBA;j CROSSING GABA;hD;i OVER GAD GAR OVER GAR;hL;
    i GAD OVER GAD GAR OVER GAR;iAM;hM;hN;i2;j TENU;kOVER GAN2;kCROSSING GAN2;hR;i3;hSHAN;
    gESHTIN;m TIMES KUR;gI;h TIMES E;oU;iCROSSING GI;h4;i OVER GI4;jCROSSING GI4;hDIM;hR2;
    j GUNU;i3;j TIMES A PLUS IGI;qGAN2 TENU;qIGI;qLU PLUS IGI;qPA;hSAL;iH;j CROSSING GISH;
    kTIMES BAD;qTAK4;lENU;gU;h CROSSING GU;h2;i TIMES KAK;s TIMES IGI GUNU;pNUN;pSAL PLUS TUG2;
    jGUNU;hD;i TIMES A PLUS KUR;pKUR;jOVER GUD LUGAL;hL;hM;i TIMES SHE;hR;i7;iUN;jSH;fHA;h TENU;
    iGUNU;hL;gI;h TIMES ASH;r2;oBAD;oDISH;oGAD;oKIN;oNUN;oSHE;oU;gU;hB2;j TIMES AN;qHAL;qKASKAL;
    qLISH;qUD;hL2;fI;g A;gB;gDIM;j OVER IDIM BUR;uSQUARED;gG;hI;i DIB;jRI;
    jOVER IGI SHIR OVER SHIR UD OVER UD;jGUNU;gL;h TIMES GAN2 TENU;h2;gM;h TIMES TAK4;
    iCROSSING IM;iOPPOSING IM;iSQUARED;hIN;gN;gR;gSH;fKA;h TIMES A;pD;q PLUS KU3;pSH2;oBAD;qLAG;
    qR;pI;oERIN2;pSH2;oGA;qL;qN2 TENU;qR;r PLUS SHA3 PLUS A;pI;qR2;qSH PLUS SAR;tCROSSING GISH;
    pU;qR7;oIGI;pM;oKAK;pI;qD;oLI;pU;oME;q PLUS DU;wGI;wTE;pI;q PLUS NUNUZ;oNE;pUN;oPI;oRU;oSA;
    qR;pHA;qE;qID;qU;pIG;pUHUR;oTAR;oU;p2;pD;pMUM TIMES PA;pSH;oZI;h2;i CROSSING KA2;hB;hD2;i3;
    i4;i5;j OVER KAD5;hK;i TIMES IGI GUNU;hL;i TIMES BAD;jCROSSING KAL;hM2;i4;hSKAL;
    l LAGAB TIMES U OVER LAGAB TIMES U;mOVER KASKAL LAGAB TIMES U OVER LAGAB TIMES U;gESH2;gI;
    h TIMES BAD;oU;pD;hD;hN;hSAL;iH;iIM5;l OVER KISIM5;gU;
    h OVER HI TIMES ASH2 KU OVER HI TIMES ASH2;h3;h4;i VARIANT FORM;h7;hL;i GUNU;hN;hR;
    i OPPOSING KUR;hSHU2;gWU318;fLA;hGAB;k TIMES A;s PLUS DA PLUS HA;yGAR;yLAL;sL;sN;
    sSH ZIDA TENU;rBAD;sI;rDAR;rEN;rGA;tR;sUD;u PLUS GUD;rHA;tL;sI TIMES NUN;rIGI GUNU;sM;
    t PLUS HA;zLU;rKI;tN;sU3;tL;u PLUS HI PLUS A;rLAGAB;sISH;sU;tL;rME;t PLUS EN;sUSH;rNE;
    rSHE PLUS SUM;tITA PLUS GISH PLUS ERIN2;HTENU;tU2;v PLUS SHU2;sUM;rTAG;tK4;
    sE PLUS A PLUS SU PLUS NA;rU;s PLUS A;yU PLUS U;s2 PLUS ASH;sD;sSH;lSQUARED;jR;k TIMES SHE;
    u PLUS SUM;lGUNU;p OVER LAGAR GUNU SHE;hHSHU;hL;i TIMES LAL;hM;i TIMES KUR;s PLUS RU;gI;hL;
    hMMU2;hSH;gU;h TIMES BAD;h2;i TIMES AL;pBAD;pESH2;t TENU;pGAN2 TENU;pHI TIMES BAD;pIM;pKAD2;
    s3;t PLUS ASH;qI;pLA PLUS ASH;rGAB;pME PLUS EN;pNE;qU;pSI PLUS ASH;rK2 PLUS BU;pTUG2;kENU;
    jCROSSING LU2;jOPPOSING LU2;jSQUARED;kHESHIG;h3;hGAL;k OVER LUGAL;mPPOSING LUGAL;lSHESHIG;
    hH;hL;hM;i OVER LUM;r GAR OVER GAR;fMA;h TIMES TAK4;iGUNU;h2;hH;hR;hSH;j2;gE;hS;gI;hN;gU;
    h OVER MU;hG;i GUNU;hNSUB;hRGU2;hSH;j TIMES A;qKUR;qZA;kOVER MUSH;t TIMES A PLUS NA;
    kCROSSING MUSH;j3;k TIMES A;s PLUS DI;rDI;lGUNU;fNA;h2;hGA;j INVERTED;kTIMES SHU TENU;
    kOPPOSING NAGA;jR;hM NUTILLU;i;i2;gE;h TIMES A;oUD;iSHESHIG;gI;h TIMES E;h2;hM;
    i TIMES GAN2 TENU;rR PLUS GAN2 TENU;hNDA2;l TIMES AN;tSH;v PLUS ASH;sGUD;sME PLUS GAN2 TENU;
    sNE;tUN;sSHE;v PLUS A AN;CSH;E PLUS ASH;sU2 PLUS ASH;tSH;hSAG;gU;h11;hN;i LAGAR TIMES GAR;
    vMASH;vSAL;y OVER NUN LAGAR TIMES SAL;vUSH;jTENU;jOVER NUN;jCROSSING NUN;v LAGAR OVER LAGAR;
    iUZ;k AB2 TIMES ASHGAB;vBI;vDUG;vGUD;vIGI GUNU;vKAD3;vLA;vNE;vSILA3;vU2;lKISIM5 TIMES BI;
    A U;fPA;hD;hN;hP;gESH2;gI;h TIMES A;pB;oBI;pU;oE;oI;pB;oU;p2;iCROSSING PI;hRIG;k TIMES KAL;
    rUD;rZA;lOPPOSING PIRIG;fRA;hB;gI;gU;fSA;hG NUTILLU;i;i TIMES A;pDU;rB;pHA;pKAK;qUR;pLUM;
    pMI;pNUN;pSAL;qHID;pTAB;pU2;qB;qM;qR;qSH;jOVER SAG;jGUNU;hL;i LAGAB TIMES ASH2;hNGA2;hR;gHA;
    i3;j TIMES A;qBAD;qGISH;qNE;qSHU2;qTUR;qU;r PLUS A;i6;iB6;iR2;hE;i HU;
    jOVER SHE GAD OVER GAD GAR OVER GAR;sTAB OVER TAB GAR OVER GAR;iG9;iN;iSH;k2;kLAM;hID;
    j TIMES A;qIM;iM;j TIMES A;qBAL;rULUG;qDIN;qGAR;qIGI;t GUNU;qKUSHU2;qLUL;qMUG;qSAL;iNIG;iR;
    j TENU;kOVER SHIR BUR OVER BUR;iTA;hU;i OVER INVERTED SHU;i2;iBUR;gI;h GUNU;hG;i4;
    j OVER SIG4 SHU2;hK2;hLA3;gU;h OVER SU;hD;i2;hHUR;hM;iASH;hR;i9;fTA;h ASTERISK;iTIMES HI;
    oMI;iGUNU;hB;i OVER TAB NI OVER NI DISH OVER DISH;jSQUARED;hG;i TIMES BI;pGUD;pSHE;rU;pTUG2;
    pUD;hK4;hR;gE;h GUNU;gI;h TENU;hL;hR;i TIMES TAK4;jOVER TIR;r GAD OVER GAD GAR OVER GAR;gU;
    hG2;hK;hM;hR;i OVER TUR ZA OVER ZA;fU;g GUD;hU U;hOVER U PA OVER PA GAR OVER GAR;
    oSUR OVER SUR;oU REVERSED OVER U REVERSED;g2;gB;gD;h KUSHU2;iTIMES BAD;oMI;oU PLUS U PLUS U;
    D GUNU;iGUNU;iSHESHIG;p TIMES BAD;hUG;gM;h TIMES LAGAB;oME PLUS DA;oSHA3;oU;hBIN;hUM;
    j TIMES KASKAL;qPA;gN;h GUNU;gR;h CROSSING UR;iSHESHIG;h2;i TIMES A PLUS HA;wNA;qL;pHA;pNUN;
    pU2;r PLUS ASH;xBI;h4;hI;i3;hU;i TIMES A;qSHGAB;pBAR;pDUN;pGA;rL;rN2 TENU;rR;qU;pHA;pIGI;qM;
    qSH;pKI;pLUM;pMIN;pPA;pSHE;qIG4;pTU;pU PLUS GUD;qD;qRUDA;iDA;k TIMES U;gSH;i TIMES A;pKU;rR;
    pTAK4;iX;i2;iUMX;gTUKI;gZ3;i TIMES KASKAL;hU;fZA;h TENU;iSQUARED TIMES KUR;hG;hMX;gE2;gI;
    h OVER ZI;h3;hB;i KABA TENU;hG;hZ2;gU;h5;i TIMES A;hBUR;hM;fKAP ELAMITE;fAB TIMES NUN;
    h2 TIMES A;gMAR TIMES KUG;fDAG KISIM5 TIMES U2 PLUS MASH;i3;gISH PLUS SHU;gUB TIMES SHE;
    fEZEN TIMES GUD;qSHE;fGA2 TIMES AN PLUS KAK PLUS A;qSH2;gE22;gIG;fHUSH;fKA TIMES ANSHE;pSH3;
    oGISH;pUD;oHI TIMES ASH2;oLUM;oPA;oSHUL;oTU;oUR2;fLAGAB TIMES GI;gU2 SHESHIG TIMES BAD;
    jTIMES ESH2 PLUS LAL;pSHU;fMESH;gUSH3 TIMES ZA;fNA4;gIN;i9;iDA2 TIMES BAL;sGI;
    gU11 ROTATED NINETY DEGREES;fPESH2 ASTERISK;gIR2;fSAG TIMES IGI GUNU;fTI2;fUM TIMES ME;g U;
    12400=aNUMERIC SIGN TWO ASH;oHREE ASH;nFOUR ASH;oIVE ASH;nSIX ASH;oEVEN ASH;nEIGHT ASH;
    nNINE ASH;nTHREE DISH;nFOUR DISH;oIVE DISH;nSIX DISH;oEVEN DISH;nEIGHT DISH;nNINE DISH;
    nFOUR U;oIVE U;nSIX U;oEVEN U;nEIGHT U;nNINE U;nONE GESH2;nTWO GESH2;oHREE GESH2;
    nFOUR GESH2;oIVE GESH2;nSIX GESH2;oEVEN GESH2;nEIGHT GESH2;nNINE GESH2;nONE GESHU;
    nTWO GESHU;oHREE GESHU;nFOUR GESHU;oIVE GESHU;nTWO SHAR2;oHREE SHAR2;y VARIANT FORM;
    nFOUR SHAR2;oIVE SHAR2;nSIX SHAR2;oEVEN SHAR2;nEIGHT SHAR2;nNINE SHAR2;nONE SHARU;
    nTWO SHARU;oHREE SHARU;y VARIANT FORM;nFOUR SHARU;oIVE SHARU;nSHAR2 TIMES GAL PLUS DISH;
    IMIN;nONE BURU;nTWO BURU;oHREE BURU;x VARIANT FORM;nFOUR BURU;oIVE BURU;
    nTHREE VARIANT FORM ESH16;J21;nFOUR VARIANT FORM LIMMU;K4;K A;LB;nSIX VARIANT FORM ASH9;
    oEVEN VARIANT FORM IMIN3;K A;LB;nEIGHT VARIANT FORM USSU;K3;nNINE VARIANT FORM ILIMMU;L3;L4;
    L A;nTWO ASH TENU;oHREE ASH TENU;nFOUR ASH TENU;oIVE ASH TENU;nSIX ASH TENU;nONE BAN2;
    nTWO BAN2;oHREE BAN2;nFOUR BAN2;w VARIANT FORM;oIVE BAN2;w VARIANT FORM;nNIGIDAMIN;tESH;
    nONE ESHE3;nTWO ESHE3;nONE THIRD DISH;nTWO THIRDS DISH;nFIVE SIXTHS DISH;
    nONE THIRD VARIANT FORM A;nTWO THIRDS VARIANT FORM A;nONE EIGHTH ASH;rQUARTER ASH;
    oLD ASSYRIAN ONE SIXTH;EQUARTER;oNE QUARTER GUR;rHALF GUR;nELAMITE ONE THIRD;vTWO THIRDS;
    vFORTY;wIFTY;nFOUR U VARIANT FORM;oIVE U VARIANT FORM;nSIX U VARIANT FORM;
    oEVEN U VARIANT FORM;nEIGHT U VARIANT FORM;nNINE U VARIANT FORM;
    12470=aPUNCTUATION SIGN OLD ASSYRIAN WORD DIVIDER;rVERTICAL COLON;rDIAGONAL COLON;ATRICOLON;
    AQUADCOLON;12480=aSIGN AB TIMES NUN TENU;oSHU2;gD TIMES ESH2;fBAD TIMES DISH TENU;
    hHAR2 TIMES AB2;sNI;sZA;gU OVER BU TIMES NA2;fDA TIMES TAK4;hG TIMES KUR;gIM TIMES IGI;
    pU U U;i2 TIMES UD;gUG TIMES ANSHE;qSH;s AT LEFT;pDIN;qUN;pERIN2;pGA;qI;rR2 GUNU;rSH;pHA;qI;
    pIGI GUNU;pKASKAL;qUR;rSHU2;v PLUS KASKAL;pLAK-020;rM;s TIMES KUR;qUH PLUS GISH;pMASH;qES;
    qI;pNI;pPI;pSHE;qI GUNU;fE2 TIMES KUR;oPAP;gRIN2 X;gSH2 CROSSING ESH2;
    gZEN SHESHIG TIMES ASH;yHI;yIGI GUNU;yLA;AL;yME;AS;ySU;kTIMES SU;fGA2 TIMES BAHAR2;
    pDIM GUNU;qUG TIMES IGI GUNU;zKASKAL;pEREN;pGA;rR PLUS DI;yNE;pHA PLUS A;
    pKUSHU2 PLUS KASKAL;pLAM;s TIMES KUR;qUH;pMUSH;pNE;r PLUS E2;xGI;pSHIM;pZIZ2;
    hBA ROTATED NINETY DEGREES;gESHTIN TIMES U;gISH TIMES GISH CROSSING GISH;gU2 TIMES IGI GUNU;
    hD PLUS GISH TIMES TAK4;fHA TENU GUNU;gI TIMES ASH OVER HI TIMES ASH;fKA TIMES BU;oKA;
    oU U U;pR;fLAGAB TIMES ZU OVER ZU;hK-003;k21;l5;k30;k50;l1;k62;k79 OVER LAK-079 GUNU;k80;
    l1 OVER LAK-081;k92;j130;k42;j210;l9;k20;l5;l8;k38;k65;l6;j343;l7;l8;k83;l4;k90;j441;l9;
    m TIMES GU;tIGI;tPAP PLUS LU3;CPAP PLUS LU3;tU2 PLUS BA;k50;l7;k70;k83;k90;l2;l3;l5;j550;
    j608;k17;m TIMES ASH;tBAD;tDUN3 GUNU GUNU;tKU3;tLA;tTAR;uE;tU2;uD;uRUDA;k36;k48;m TIMES DUB;
    tGA;tIGI;w GUNU;tNI;tPAP PLUS PAP PLUS LU3;tSHESH PLUS KI;tUD;uRUDA;j724;k49;
    gU2 GUNU TIMES ASH;jTIMES DISH;pHAL;pPAP;s PLUS PAP PLUS LU3;pTAK4;fMI PLUS ZA7;
    gUSH OVER MUSH TIMES GA;AKAK;fNINDA2 TIMES DIM GUNU;sGISH;tUL;sHI;sKESH2;sLAK-050;sMASH;
    sPAP PLUS PAP;sU;t PLUS U;tRUDA;fSAG GUNU TIMES HA;jTIMES EN;pSHE AT LEFT;pTAK4;gHA6 TENU;
    hE OVER SHE;jPLUS HUB2;oNAM2;oSAR;hU2 PLUS DUG TIMES NI;pE2 TIMES AN;gI TIMES TAK4;
    fTAK4 PLUS SAG;gUM TIMES GAN2 TENU;pTHREE DISH;fUR2 INVERTED;jTIMES UD;hU TIMES DARA3;
    pLAK-668;qU3;fZA7;gU OVER ZU PLUS SAR;h5 TIMES THREE DISH TENU;
    12F90=1YPRO-MINOAN SIGN CM001;m2;m4;m5;m6;m7;m8;m9;l10;m1;m2;nB;m3;m5;m7;m9;l21;m3;m4;m5;m6;
    m7;m8;m9;l30;m3;m4;m5;m6;m7;m8;m9;l40;m1;m4;m6;m7;m9;l50;m1;m2;m3;m4;m5;m6;m8;m9;l60;m1;m2;
    m3;m4;m6;m7;m8;m9;l70;m1;m2;m3;m4;m5;nB;m6;m8;m9;l80;m1;m2;m3;m4;m5;m6;m7;m8;m9;l90;m1;m2;
    m4;m5;m6;m7;m8;m9;k100;m1;m2;m3;m4;m5;m7;m8;m9;l10;m2;m4;k301;m2;
    13000=0EGYPTIAN HIEROGLYPH A001;n2;n3;n4;n5;oA;n6;oA;oB;n7;n8;n9;m10;n1;n2;n3;n4;oA;n5;n6;
    n7;oA;n8;n9;m20;n1;n2;n3;n4;n5;n6;n7;n8;n9;m30;n1;n2;oA;n3;n4;n5;n6;n7;n8;n9;m40;oA;n1;n2;
    oA;n3;oA;n4;n5;oA;n6;n7;n8;n9;m50;n1;n2;n3;n4;n5;n6;n7;n8;n9;m60;n1;n2;n3;n4;n5;n6;n7;n8;n9;
    m70;kB001;n2;n3;n4;n5;oA;n6;n7;n8;n9;kC001;n2;oA;oB;oC;n3;n4;n5;n6;n7;n8;n9;m10;oA;n1;n2;n3;
    n4;n5;n6;n7;n8;n9;m20;n1;n2;n3;n4;kD001;n2;n3;n4;n5;n6;n7;n8;oA;n9;m10;n1;n2;n3;n4;n5;n6;n7;
    n8;n9;m20;n1;n2;n3;n4;n5;n6;n7;oA;n8;n9;m30;n1;oA;n2;n3;n4;oA;n5;n6;n7;n8;n9;m40;n1;n2;n3;
    n4;n5;n6;oA;n7;n8;oA;n9;m50;oA;oB;oC;oD;oE;oF;oG;oH;oI;n1;n2;oA;n3;n4;oA;n5;n6;n7;n8;n9;m60;
    n1;n2;n3;n4;n5;n6;n7;oA;oB;oC;oD;oE;oF;oG;oH;kE001;n2;n3;n4;n5;n6;n7;n8;oA;n9;oA;m10;n1;n2;
    n3;n4;n5;n6;oA;n7;oA;n8;n9;m20;oA;n1;n2;n3;n4;n5;n6;n7;n8;oA;n9;m30;n1;n2;n3;n4;oA;n6;n7;n8;
    kF001;oA;n2;n3;n4;n5;n6;n7;n8;n9;m10;n1;n2;n3;oA;n4;n5;n6;n7;n8;n9;m20;n1;oA;n2;n3;n4;n5;n6;
    n7;n8;n9;m30;n1;oA;n2;n3;n4;n5;n6;n7;oA;n8;oA;n9;m40;n1;n2;n3;n4;n5;oA;n6;oA;n7;oA;n8;n9;
    m50;n1;oA;oB;oC;n2;n3;kG001;n2;n3;n4;n5;n6;oA;n7;oA;oB;n8;n9;m10;n1;oA;n2;n3;n4;n5;n6;n7;n8;
    n9;m20;oA;n1;n2;n3;n4;n5;n6;oA;n7;n8;n9;m30;n1;n2;n3;n4;n5;n6;oA;n7;oA;n8;n9;m40;n1;n2;n3;
    oA;n4;n5;oA;n6;n7;n8;n9;m50;n1;n2;n3;n4;kH001;n2;n3;n4;n5;n6;oA;n7;n8;kI001;n2;n3;n4;n5;oA;
    n6;n7;n8;n9;oA;m10;oA;n1;oA;n2;n3;n4;n5;kK001;n2;n3;n4;n5;n6;n7;n8;kL001;n2;oA;n3;n4;n5;n6;
    oA;n7;n8;kM001;oA;oB;n2;n3;oA;n4;n5;n6;n7;n8;n9;m10;oA;n1;n2;oA;oB;oC;oD;oE;oF;oG;oH;n3;n4;
    n5;oA;n6;oA;n7;oA;n8;n9;m20;n1;n2;oA;n3;n4;oA;n5;n6;n7;n8;oA;n9;m30;n1;oA;n2;n3;oA;oB;n4;n5;
    n6;n7;n8;n9;m40;oA;n1;n2;n3;n4;kN001;n2;n3;n4;n5;n6;n7;n8;n9;m10;n1;n2;n3;n4;n5;n6;n7;n8;oA;
    oB;n9;m20;n1;n2;n3;n4;n5;oA;n6;n7;n8;n9;m30;n1;n2;n3;oA;n4;oA;n5;oA;n6;n7;oA;n8;n9;m40;n1;
    n2;lL001;o2;o3;o4;o5;pA;o6;o7;o8;o9;n10;o1;o2;o3;o4;o5;o6;o7;pA;o8;o9;n20;lU001;o2;o3;o4;o5;
    o6;o7;o8;o9;n10;pA;o1;pA;o2;o3;o4;o5;o6;o7;o8;pA;o9;n20;o1;o2;pA;kO001;oA;n2;n3;n4;n5;oA;n6;
    oA;oB;oC;oD;oE;oF;n7;n8;n9;m10;oA;oB;oC;n1;n2;n3;n4;n5;n6;n7;n8;n9;oA;m20;oA;n1;n2;n3;n4;oA;
    n5;oA;n6;n7;n8;n9;oA;m30;oA;n1;n2;n3;oA;n4;n5;n6;oA;oB;oC;oD;n7;n8;n9;m40;n1;n2;n3;n4;n5;n6;
    n7;n8;n9;m50;oA;oB;n1;kP001;oA;n2;n3;oA;n4;n5;n6;n7;n8;n9;m10;n1;kQ001;n2;n3;n4;n5;n6;n7;
    kR001;n2;oA;n3;oA;oB;n4;n5;n6;n7;n8;n9;m10;oA;n1;n2;n3;n4;n5;n6;oA;n7;n8;n9;m20;n1;n2;n3;n4;
    n5;n6;n7;n8;n9;kS001;n2;oA;n3;n4;n5;n6;oA;n7;n8;n9;m10;n1;n2;n3;n4;oA;oB;n5;n6;n7;oA;n8;n9;
    m20;n1;n2;n3;n4;n5;n6;oA;oB;n7;n8;n9;m30;n1;n2;n3;n4;n5;oA;n6;n7;n8;n9;m40;n1;n2;n3;n4;n5;
    n6;kT001;n2;n3;oA;n4;n5;n6;n7;oA;n8;oA;n9;oA;m10;n1;oA;n2;n3;n4;n5;n6;oA;n7;n8;n9;m20;n1;n2;
    n3;n4;n5;n6;n7;n8;n9;m30;n1;n2;oA;n3;oA;n4;n5;n6;kU001;n2;n3;n4;n5;n6;oA;oB;n7;n8;n9;m10;n1;
    n2;n3;n4;n5;n6;n7;n8;n9;m20;n1;n2;n3;oA;n4;n5;n6;n7;n8;n9;oA;m30;n1;n2;oA;n3;n4;n5;n6;n7;n8;
    n9;m40;n1;n2;kV001;oA;oB;oC;oD;oE;oF;oG;oH;oI;n2;oA;n3;n4;n5;n6;n7;oA;oB;n8;n9;m10;n1;oA;oB;
    oC;n2;oA;oB;n3;n4;n5;n6;n7;n8;n9;m20;oA;oB;oC;oD;oE;oF;oG;oH;oI;oJ;oK;oL;n1;n2;n3;oA;n4;n5;
    n6;n7;n8;oA;n9;oA;m30;oA;n1;oA;n2;n3;oA;n4;n5;n6;n7;oA;n8;n9;m40;oA;kW001;n2;n3;oA;n4;n5;n6;
    n7;n8;n9;oA;m10;oA;n1;n2;n3;n4;oA;n5;n6;n7;oA;n8;oA;n9;m20;n1;n2;n3;n4;oA;n5;kX001;n2;n3;n4;
    oA;oB;n5;n6;oA;n7;n8;oA;kY001;oA;n2;n3;n4;n5;n6;n7;n8;kZ001;n2;oA;oB;oC;oD;n3;oA;oB;n4;oA;
    n5;oA;n6;n7;n8;n9;m10;n1;n2;n3;n4;n5;oA;oB;oC;oD;oE;oF;oG;oH;oI;n6;oA;oB;oC;oD;oE;oF;oG;oH;
    kAA001;o2;o3;o4;o5;o6;o7;pA;pB;o8;o9;n10;o1;o2;o3;o4;o5;o6;o7;o8;o9;n20;o1;o2;o3;o4;o5;o6;
    o7;o8;o9;n30;o1;o2;13430=kVERTICAL JOINER;kHORIZONTAL JOINER;kINSERT AT TOP START;
    uBOTTOM START;uTOP END;uBOTTOM END;kOVERLAY MIDDLE;kBEGIN SEGMENT;kEND SEGMENT;
    14400=0ANATOLIAN HIEROGLYPH A001;o2;o3;o4;o5;o6;o7;o8;o9;n10;pA;o1;o2;o3;o4;o5;o6;o7;o8;o9;
    n20;o1;o2;o3;o4;o5;o6;pA;o7;o8;o9;n30;o1;o2;o3;o4;o5;o6;o7;o8;o9;pA;n40;o1;pA;o2;o3;o4;o5;
    pA;o6;pA;pB;o7;o8;o9;n50;o1;o2;o3;o4;o5;o6;o7;o8;o9;n60;o1;o2;o3;o4;o5;o6;pA;pB;pC;o7;o8;o9;
    n70;o1;o2;o3;o4;o5;o6;o7;o8;o9;n80;o1;o2;o3;o4;o5;o6;o7;o8;o9;n90;o1;o2;o3;o4;o5;o6;o7;pA;
    o8;pA;o9;m100;pA;o1;pA;o2;pA;o3;o4;pA;pB;pC;o5;pA;pB;o6;o7;pA;pB;pC;o8;o9;n10;pA;pB;o1;o2;
    o3;o4;o5;pA;o6;o7;o8;o9;n20;o1;o2;o3;o4;o5;pA;o6;o7;o8;o9;n30;o1;o2;o3;o4;o5;pA;o6;o7;o8;o9;
    n40;o1;o2;o3;o4;o5;o6;o7;o8;o9;n50;o1;o2;o3;o4;o5;o6;o7;o8;o9;n60;o1;o2;o3;o4;o5;o6;o7;o8;
    o9;n70;o1;o2;o3;o4;o5;o6;o7;o8;o9;n80;o1;o2;o3;o4;o5;o6;o7;o8;o9;n90;o1;o2;o3;o4;o5;o6;o7;
    o8;o9;m200;o1;o2;pA;pB;o3;o4;o5;o6;o7;pA;o8;o9;pA;n10;o1;o2;o3;o4;o5;pA;o6;pA;o7;o8;o9;n20;
    o1;o2;o3;o4;o5;o6;o7;pA;o8;o9;n30;o1;o2;o3;o4;o5;o6;o7;o8;o9;n40;o1;o2;o3;o4;o5;o6;o7;o8;o9;
    n50;o1;o2;o3;o4;o5;o6;o7;o8;o9;n60;o1;o2;o3;o4;o5;o6;o7;pA;o8;o9;n70;o1;o2;o3;o4;o5;o6;o7;
    o8;o9;n80;o1;o2;o3;o4;o5;o6;o7;o8;o9;pA;n90;o1;o2;o3;o4;pA;o5;o6;o7;o8;o9;pA;m300;o1;o2;o3;
    o4;o5;o6;o7;o8;o9;pA;n10;o1;o2;o3;o4;o5;o6;o7;o8;o9;n20;o1;o2;o3;o4;o5;o6;o7;o8;o9;pA;n30;
    o1;o2A;pB;pC;o3;o4;o5;o6;pA;pB;pC;o7;o8;o9;n40;o1;o2;o3;o4;o5;o6;o7;o8;o9;n50;o1;o2;o3;o4;
    o5;o6;o7;o8;o9;pA;n60;o1;o2;o3;o4;pA;o5;o6;o7;o8;pA;o9;n70;o1;pA;o2;o3;o4;o5;o6;o7;o8;o9;
    n80;o1;pA;o2;o3 RA OR RI;pA;o4;o5;o6;pA;o7;o8;o9;n90;o1;o2;o3 EIGHT;o4;o5;o6;o7;o8;o9;m400;
    o1;o2;o3;o4;o5;o6;o7;o8;o9;n10 BEGIN LOGOGRAM MARK;pA END LOGOGRAM MARK;o1;o2;o3;o4;o5;o6;
    o7;o8;o9;n20;o1;o2;o3;o4;o5;o6;o7;o8;o9;n30;o1;o2;o3;o4;o5;o6;o7;o8;o9;n40;o1;o2;o3;o4;o5;
    o6;o7;o8;o9;n50;pA;o1;o2;o3;o4;o5;o6;o7;pA;o8;o9;n60;o1;o2;o3;o4;o5;o6;o7;o8;o9;n70;o1;o2;
    o3;o4;o5;o6;o7;o8;o9;n80;o1;o2;o3;o4;o5;o6;o7;o8;o9;n90;o1;o2;o3;o4;o5;o6;o7;m501;o2;o3;o4;
    o5;o6;o7;o8;o9;n10;o1;o2;o3;o4;o5;o6;o7;o8;o9;n20;o1;o2;o3;o4;o5;o6;o7;o8;o9;n30;
    16800=0BAMUM LETTER PHASE-A NGKUE MFON;lGBIEE FON;lPON MFON PIPAEMGBIEE;ABA;lNAA MFON;
    lSHUENSHUET;lTITA MFON;lNZA MFON;lSHINDA PA NJI;lPON PA NJI PIPAEMGBIEE;CBA;lMAEMBGBIEE;
    lTU MAEMBA;lNGANGU;lMAEMVEUX;nNSUAE;mVEUAENGAM;lSEUNYAM;lNTOQPEN;lKEUKEUTNDA;lNKINDI;lSUU;
    lNGKUENZEUM;lLAPAQ;mET KUT;lNTAP MFAA;lMAEKEUP;lPASHAE;lGHEUAERAE;lPAMSHAE;lMON NGGEUAET;
    lNZUN MEUT;lU YUQ NAE;lGHEUAEGHEUAE;lNTAP NTAA;lSISA;lMGBASA;mEUNJOMNDEUQ;mOOMPUQ;lKAFA;
    lPA LEERAEWA;lNDA LEERAEWA;lPET;lMAEMKPEN;lNIKA;lPUP;lTUAEP;lLUAEP;lSONJAM;lTEUTEUWEN;
    lMAENYI;lKET;lNDAANGGEUAET;lKUOQ;lMOOMEUT;lSHUM;lLOMMAE;lFIRI;lROM;lKPOQ;lSOQ;lMAP PIEET;
    lSHIRAE;lNTAP;lSHOQ NSHUT YUM;lNYIT MONGKEUAEQ;lPAARAE;lNKAARAE;lUNKNOWN;lNGGEN;lMAESI;
    lNJAM;lMBANYI;lNYET;lTEUAEN;lSOT;lPAAM;lNSHIEE;lMAEM;lNYI;lKAQ;lNSHA;lVEE;lLU;lNEN;mAQ;
    lMBAQ;jB NSHUET;lTU MAEMGBIEE;lSIEE;mET TU;lLOM NTEUM;lMBA MAELEE;lKIEEM;lYEURAE;lMBAARAE;
    lKAM;lPEESHI;lYAFU LEERAEWA;lLAM NSHUT NYAM;lNTIEE SHEUOQ;mDU NJAA;lGHEUGHEUAEM;lPIT;
    lTU NSIEE;lSHET NJAQ;oUAEQTU;lMFON TEUAEQ;mBIT MBAAKET;lNYI NTEUM;lKEUPUQ;lGHEUGHEN;
    lKEUYEUX;lLAANAE;lPARUM;lVEUM;lNGKINDI MVOP;nGEU MBU;lWUAET;lSAKEUAE;lTAAM;lMEUQ;lNGGUOQ;
    r LARGE;lMFIYAQ;lSUE;lMBEURI;mONTIEEN;lNYAEMAE;lPUNGAAM;lMEUT NGGEET;lFEUX;lMBUOQ;lFEE;
    lKEUAEM;lMA NJEUAENA;qUQA;lLET;lNGGAAM;mSEN;lMA;lKIQ;lNGOM;jC NGKUE MAEMBA;mZA;lYUM;
    lWANGKUOQ;lNGGEN;mDEUAEREE;mGKAQ;lGHARAE;lMBEEKEET;lGBAYI;lNYIR MKPARAQ MEUN;mTU MBIT;
    lMBEUM;lPIRIEEN;lNDOMBU;lMBAA CABBAGE-TREE;lKEUSHEUAEP;lGHAP;lKEUKAQ;lYU MUOMAE;lNZEUM;
    lMBUE;lNSEUAEN;lMBIT;lYEUQ;lKPARAQ;mAA;lSEUX;lNDIDA;lTAASHAE;lNJUEQ;lTITA YUE;lSUAET;
    lNGGUAEN NYAM;lVEUX;lNANSANAQ;lMA KEUAERI;lNTAA;mGGUON;lLAP;lMBIRIEEN;mGBASAQ;lNTEUNGBA;
    lTEUTEUX;lNGGUM;lFUE;lNDEUT;mSA;nHAQ;lBUNG;lVEUAEPEN;lMBERAE;lRU;lNJAEM;lLAM;lTITUAEP;
    lNSUOT NGOM;mJEEEE;lKET;lNGGU;lMAESI;mBUAEM;lLU;lKUT;lNJAM;mGOM;lWUP;lNGGUEET;mSOM;mTEN;
    lKUOP NKAARAE;lNSUN;mDAM;lMA NSIEE;lYAA;lNDAP;lSHUEQ;mETFON;lMBI;mAEMBA;mBANYI;lKEUSEUX;
    lMBEUX;lKEUM;lMBAA PICKET;lYUWOQ;lNJEUX;lMIEE;mUAE;lSHIQ;lKEN LAW;pFATIGUE;lNGAQ;mAQ;lLIQ;
    lPIN;mEN;lTET;jD MBUO;lWAP;lNJI;lMFON;lNJIEE;lLIEE;lNJEUT;mSHEE;mGGAAMAE;mYAM;lWUAEN;lNGKUN;
    lSHEE;lNGKAP;lKEUAETMEUN;lTEUT;lSHEUAE;lNJAP;lSUE;lKET;lYAEMMAE;lKUOM;lSAP;lMFEUT;lNDEUX;
    lMALEERI;mEUT;lSEUAEQ;lYEN;lNJEUAEM;lKEUOT MBUAE;lNGKEURI;lTU;lGHAA;lNGKYEE;lFEUFEUAET;
    lNDEE;lMGBOFUM;lLEUAEP;lNDON;lMONI;mGBEUN;lPUUT;lMGBIEE;mFO;lLUM;lNSIEEP;lMBAA;lKWAET;lNYET;
    lTEUAEN;lSOT;lYUWOQ;lKEUM;lRAEM;lTEEEE;lNGKEUAEQ;lMFEUAE;lNSIEET;lKEUP;lPIP;mEUTAE;lNYUE;
    lLET;lNGGAAM;lMFIEE;lNGGWAEN;lYUOM;lPAP;lYUOP;lNDAM;mTEUM;lSUAE;lKUN;lNGGEUX;nKIEE;lTUOT;
    lMEUN;lKUQ;lNSUM;lTEUN;lMAENJET;lNGGAP;lLEUM;lNGGUOM;mSHUT;mJUEQ;lGHEUAE;lKU;lREN OLD;lTAE;
    mOQ;lNYI;lRII;lLEEEE;lMEEEE;m;lSUU;lMU;lSHII;nEUX;lKYEE;lNU;lSHU;lNTEE;lPEE;lNI;lSHOQ;lPUQ;
    lMVOP;lLOQ;lREN MUCH;lTI;lNTUU;lMBAA SEVEN;lSAQ;lFAA;jE NDAP;lTOON;lMBEUM;lLAP;lVOM;lLOON;
    lPAA;lSOM;lRAQ;lNSHUOP;mDUN;lPUAE;lTAM;lNGKA;lKPEUX;lWUO;lSEE;lNGGEUAET;lPAAM;lTOO;lKUOP;
    lLOM;lNSHIEE;mGOP;lMAEM;lNGKEUX;nOQ;mSHUE;lRIMGBA;lNJEUX;lPEEM;lSAA;lNGGURAE;lMGBA;lGHEUX;
    lNGKEUAEM;mJAEMLI;lMAP;lLOOT;lNGGEEEE;mDIQ;lTAEN NTEUM;lSET;lPUM;lNDAA SOFTNESS;
    mGGUAESHAE NYAM;lYIEE;lGHEUN;lTUAE;lYEUAE;lPO;lTUMAE;lKEUAE;lSUAEN;lTEUAEQ;lVEUAE;lWEUX;
    lLAAM;lPU;lTAAQ;lGHAAMAE;lNGEUREUT;lSHEUAEQ;lMGBEN;mBEE;lNZAQ;mKOM;lGBET;lTUM;lKUET;lYAP;
    lNYI CLEAVER;lYIT;lMFEUQ;lNDIAQ;lPIEEQ;lYUEQ;lLEUAEM;lFUE;lGBEUX;lNGKUP;lKET;lMAE;lNGKAAMI;
    lGHET;lFA;lNTUM;lPEUT;lYEUM;lNGGEUAE;mYI BETWEEN;mZUQ;lPOON;lMIEE;lFUET;lNAE;lMUAE;lGHEUAE;
    lFU I;lMVI;lPUAQ;lNGKUM;lKUT;lPIET;lNTAP;lYEUAET;lNGGUP;lPA PEOPLE;lFU CALL;mOM;lNJEE;lA;
    lTOQ;lO;lI;lLAQ;lPA PLURAL;lTAA;nQ;lNDAA MY HOUSE;lSHIQ;lYEUX;lNGUAE;lYUAEN;mOQ SWIMMING;
    pCOVER;mUQ;nN;lKEUX;lPEUX;lNJEE EPOCH;lPUE;lWUE;lFEE;lVEE;lLU;lMI;lREUX;mAE;lNGUAET;nA;lSHO;
    oQ;lFU REMEDY;lNA;lPI;lLOQ;lKO;lMEN;mA;nQ;lTEU;lKI;lMON;lTEN;lFAQ;lGHOM;jF KA;lU;lKU;lEE;
    lREE;lTAE;lNYI;lLA;lRII;nEE;lMEEEE;lTAA;lNDAA;mJAEM;lM;lSUU;mHII;mI;mEUX;lKYEE;mET;lNUAE;n;
    mJUAE;lYOQ;lSHU;lYA;lNSHA;lPEUX;lNTEE;lWUE;lPEE;lRU;lNI;lREUX;lKEN;lNGKWAEN;nGA;lSHO;lPUAE;
    lFOM;lWA;lLI;mOQ;lKO;lMBEN;lREN;lMA;mO;mBAA;lTET;lKPA;lSAMBA;lVUEQ;16A40=0MRO LETTER TA;
    bNGI;bYO;bMIM;bBA;bDA;bA;bPHI;bKHAI;bHAO;bDAI;bCHU;bKEAAE;bOL;bMAEM;bNIN;bPA;bOO;c;bRO;bSHI;
    bTHEA;bEA;bWA;bE;bKO;bLAN;d;bHAI;bRI;bTEK;16A60=4DIGIT ZERO;aONE;aTWO;bHREE;aFOUR;bIVE;aSIX;
    bEVEN;aEIGHT;aNINE;16A6E=5ANDA;5OUBLE DANDA;0TANGSA LETTER OZ;fC;fQ;fX;eAZ;fC;fQ;fX;eVZ;fC;
    fQ;fX;eEZ;fC;fQ;fX;eIZ;fC;fQ;fX;eUZ;fC;fQ;fX;eAWZ;gC;gQ;gX;eUIZ;gC;gQ;gX;eFINAL NG;
    eLONG UEX;eSHORT UEZ;kAWX;eUEC;gZ;gQ;gX;fIUZ;hC;hQ;hX;eMZ;fC;fQ;fX;eKA;fHA;eGA;eNGA;eSA;eYA;
    eWA;ePA;eNYA;ePHA;eBA;eMA;eNA;eHA;eLA;eHTA;eTA;eDA;eRA;eNHA;eSHA;eCA;eTSA;eGHA;eHTTA;eTHA;
    eXA;eFA;eDHA;eCHA;eZA;16AC0=7DIGIT ZERO;dONE;dTWO;eHREE;dFOUR;eIVE;dSIX;eEVEN;dEIGHT;dNINE;
    16AD0=0BASSA VAH LETTER ENNI;hKA;hSE;hFA;hMBE;hYIE;hGAH;hDHII;hKPAH;hJO;hHWAH;hWA;hZO;hGBU;
    hDO;hCE;hUWU;hTO;hBA;hVU;hYEIN;hPA;hWADDA;hA;hO;iO;hU;hEE;i;hI;16AF0=aCOMBINING HIGH TONE;
    kLOW TONE;kMID TONE;kLOW-MID TONE;kHIGH-LOW TONE;aFULL STOP;16B00=0PAHAWH HMONG VOWEL KEEB;
    mV;kIB;lV;kAUB;mV;kUB;lV;kEB;lV;kAIB;mV;kOOB;mV;kAWB;mV;kUAB;mV;kOB;lV;kIAB;mV;kAB;lV;kWB;
    lV;kAAB;mV;dCONSONANT VAU;nNTSAU;nLAU;nHAU;nNLAU;nRAU;nNKAU;nQHAU;nYAU;nHLAU;nMAU;nCHAU;
    nNCHAU;nHNAU;nPLHAU;nNTHAU;oAU;nAU;nXAU;nCAU;dMARK CIM TUB;mSO;mKES;nHAV;mSUAM;mHOM;mTAUM;
    dSIGN VOS THOM;nSHAB CEEB;iCIM CHEEM;iVOS THIAB;mFEEM;iXYEEM NTXIV;oRHO;oTOV;oFAIB;
    iVOS SEEV;iMEEJ SUAB;iVOS NRUA;iIB YAM;iXAUS;iCIM TSOV ROG;16B50=dDIGIT ZERO;jONE;jTWO;
    kHREE;jFOUR;kIVE;jSIX;kEVEN;jEIGHT;jNINE;16B5B=dNUMBER TENS;kHUNDREDS;kTEN THOUSANDS;
    kMILLIONS;kHUNDRED MILLIONS;kTEN BILLIONS;lRILLIONS;16B63=dSIGN VOS LUB;iXYOO;iHLI;
    iTHIRD-STAGE HLI;iZWJ THAJ;iHNUB;iNQIG;iXIAB;iNTUJ;iAV;iTXHEEJ CEEV;iMEEJ TSEEB;iTAU;iLOS;
    iMUS;iCIM HAIS LUS NTOG NTOG;mCUAM TSHOOJ;mTXWV;q CHWV;mPUB DAWB;mNRES TOS;
    16B7D=dCLAN SIGN TSHEEJ;nYEEG;nLIS;oAUJ;nXYOOJ;nKOO;nHAWJ;nMUAS;nTHOJ;oSAB;nPHAB;nKHAB;nHAM;
    nVAJ;nFAJ;nYAJ;nTSWB;nKWM;nVWJ;16E40=0MEDEFAIDRIN CAPITAL LETTER M;rS;rV;rW;rATIU;rZ;rKP;rP;
    rT;rG;rF;rI;rK;rA;rJ;rE;rB;rC;rU;rYU;rL;rQ;rHP;rNY;rX;rD;rOE;rN;rR;rO;rAI;rY;
    cSMALL LETTER M;pS;pV;pW;pATIU;pZ;pKP;pP;pT;pG;pF;pI;pK;pA;pJ;pE;pB;pC;pU;pYU;pL;pQ;pHP;pNY;
    pX;pD;pOE;pN;pR;pO;pAI;pY;cDIGIT ZERO;iONE;iTWO;jHREE;iFOUR;jIVE;iSIX;jEVEN;iEIGHT;iNINE;
    cNUMBER TEN;jELEVEN;jTWELVE;kHIRTEEN;jFOURTEEN;kIFTEEN;jSIXTEEN;kEVENTEEN;jEIGHTEEN;
    jNINETEEN;cDIGIT ONE ALTERNATE FORM;iTWO ALTERNATE FORM;jHREE ALTERNATE FORM;cCOMMA;
    cFULL STOP;cSYMBOL AIVA;cEXCLAMATION OH;16F00=1IAO LETTER PA;cBA;cYI PA;cPLA;cMA;dHA;
    cARCHAIC MA;cFA;cVA;dFA;cTA;cDA;cYI TTA;gA;cTTA;cDDA;cNA;dHA;cYI NNA;cARCHAIC NA;cNNA;eHA;
    cLA;dYA;dHA;eYA;cTLHA;cDLHA;cTLHYA;cDLHYA;cKA;cGA;cYI KA;cQA;dGA;cNGA;eHA;cARCHAIC NGA;cHA;
    cXA;cGHA;eHA;cTSSA;cDZZA;cNYA;eHA;cTSHA;cDZHA;cYI TSHA;fDZHA;cREFORMED TSHA;cSHA;dSA;cZHA;
    dSHA;cTSA;cDZA;cYI TSA;cSA;cZA;dSA;dZA;eSA;cARCHAIC ZZA;cZZYA;eSYA;cWA;cAH;cHHA;cBRI;cSYI;
    cDZYI;cTE;dSE;cRTE;16F4F=5SIGN CONSONANT MODIFIER BAR;5LETTER NASALIZATION;5SIGN ASPIRATION;
    aREFORMED VOICING;jASPIRATION;5VOWEL SIGN A;hA;hHH;hN;iG;gO;hO;gWO;h;gE;hN;iG;gOEY;gI;hA;iN;
    jG;hO;hE;hI;hU;hNG;gU;hA;iN;jG;hU;hEI;hNG;gY;hI;gAE;iE;gERR;gROUNDED ERR;gER;gROUNDED ER;
    gAI;gEI;gAU;gOU;gN;hG;gUOG;gYUI;gOG;hER;gVW;gIG;gEA;gIONG;gUI;16F8F=5TONE RIGHT;aTOP RIGHT;
    aABOVE;aBELOW;5LETTER TONE-2;h3;h4;h5;h6;h7;h8;cREFORMED TONE-1;q2;q4;q5;q6;q8;
    16FE0=0TANGUT ITERATION MARK;0NUSHU ITERATION MARK;0OLD CHINESE HOOK MARK;cITERATION MARK;
    0KHITAN SMALL SCRIPT FILLER;16FF0=0VIETNAMESE ALTERNATE READING MARK CA;yNHAY;
    18800=0TANGUT COMPONENT-001;j2;j3;j4;j5;j6;j7;j8;j9;i10;j1;j2;j3;j4;j5;j6;j7;j8;j9;i20;j1;
    j2;j3;j4;j5;j6;j7;j8;j9;i30;j1;j2;j3;j4;j5;j6;j7;j8;j9;i40;j1;j2;j3;j4;j5;j6;j7;j8;j9;i50;
    j1;j2;j3;j4;j5;j6;j7;j8;j9;i60;j1;j2;j3;j4;j5;j6;j7;j8;j9;i70;j1;j2;j3;j4;j5;j6;j7;j8;j9;
    i80;j1;j2;j3;j4;j5;j6;j7;j8;j9;i90;j1;j2;j3;j4;j5;j6;j7;j8;j9;h100;j1;j2;j3;j4;j5;j6;j7;j8;
    j9;i10;j1;j2;j3;j4;j5;j6;j7;j8;j9;i20;j1;j2;j3;j4;j5;j6;j7;j8;j9;i30;j1;j2;j3;j4;j5;j6;j7;
    j8;j9;i40;j1;j2;j3;j4;j5;j6;j7;j8;j9;i50;j1;j2;j3;j4;j5;j6;j7;j8;j9;i60;j1;j2;j3;j4;j5;j6;
    j7;j8;j9;i70;j1;j2;j3;j4;j5;j6;j7;j8;j9;i80;j1;j2;j3;j4;j5;j6;j7;j8;j9;i90;j1;j2;j3;j4;j5;
    j6;j7;j8;j9;h200;j1;j2;j3;j4;j5;j6;j7;j8;j9;i10;j1;j2;j3;j4;j5;j6;j7;j8;j9;i20;j1;j2;j3;j4;
    j5;j6;j7;j8;j9;i30;j1;j2;j3;j4;j5;j6;j7;j8;j9;i40;j1;j2;j3;j4;j5;j6;j7;j8;j9;i50;j1;j2;j3;
    j4;j5;j6;j7;j8;j9;i60;j1;j2;j3;j4;j5;j6;j7;j8;j9;i70;j1;j2;j3;j4;j5;j6;j7;j8;j9;i80;j1;j2;
    j3;j4;j5;j6;j7;j8;j9;i90;j1;j2;j3;j4;j5;j6;j7;j8;j9;h300;j1;j2;j3;j4;j5;j6;j7;j8;j9;i10;j1;
    j2;j3;j4;j5;j6;j7;j8;j9;i20;j1;j2;j3;j4;j5;j6;j7;j8;j9;i30;j1;j2;j3;j4;j5;j6;j7;j8;j9;i40;
    j1;j2;j3;j4;j5;j6;j7;j8;j9;i50;j1;j2;j3;j4;j5;j6;j7;j8;j9;i60;j1;j2;j3;j4;j5;j6;j7;j8;j9;
    i70;j1;j2;j3;j4;j5;j6;j7;j8;j9;i80;j1;j2;j3;j4;j5;j6;j7;j8;j9;i90;j1;j2;j3;j4;j5;j6;j7;j8;
    j9;h400;j1;j2;j3;j4;j5;j6;j7;j8;j9;i10;j1;j2;j3;j4;j5;j6;j7;j8;j9;i20;j1;j2;j3;j4;j5;j6;j7;
    j8;j9;i30;j1;j2;j3;j4;j5;j6;j7;j8;j9;i40;j1;j2;j3;j4;j5;j6;j7;j8;j9;i50;j1;j2;j3;j4;j5;j6;
    j7;j8;j9;i60;j1;j2;j3;j4;j5;j6;j7;j8;j9;i70;j1;j2;j3;j4;j5;j6;j7;j8;j9;i80;j1;j2;j3;j4;j5;
    j6;j7;j8;j9;i90;j1;j2;j3;j4;j5;j6;j7;j8;j9;h500;j1;j2;j3;j4;j5;j6;j7;j8;j9;i10;j1;j2;j3;j4;
    j5;j6;j7;j8;j9;i20;j1;j2;j3;j4;j5;j6;j7;j8;j9;i30;j1;j2;j3;j4;j5;j6;j7;j8;j9;i40;j1;j2;j3;
    j4;j5;j6;j7;j8;j9;i50;j1;j2;j3;j4;j5;j6;j7;j8;j9;i60;j1;j2;j3;j4;j5;j6;j7;j8;j9;i70;j1;j2;
    j3;j4;j5;j6;j7;j8;j9;i80;j1;j2;j3;j4;j5;j6;j7;j8;j9;i90;j1;j2;j3;j4;j5;j6;j7;j8;j9;h600;j1;
    j2;j3;j4;j5;j6;j7;j8;j9;i10;j1;j2;j3;j4;j5;j6;j7;j8;j9;i20;j1;j2;j3;j4;j5;j6;j7;j8;j9;i30;
    j1;j2;j3;j4;j5;j6;j7;j8;j9;i40;j1;j2;j3;j4;j5;j6;j7;j8;j9;i50;j1;j2;j3;j4;j5;j6;j7;j8;j9;
    i60;j1;j2;j3;j4;j5;j6;j7;j8;j9;i70;j1;j2;j3;j4;j5;j6;j7;j8;j9;i80;j1;j2;j3;j4;j5;j6;j7;j8;
    j9;i90;j1;j2;j3;j4;j5;j6;j7;j8;j9;h700;j1;j2;j3;j4;j5;j6;j7;j8;j9;i10;j1;j2;j3;j4;j5;j6;j7;
    j8;j9;i20;j1;j2;j3;j4;j5;j6;j7;j8;j9;i30;j1;j2;j3;j4;j5;j6;j7;j8;j9;i40;j1;j2;j3;j4;j5;j6;
    j7;j8;j9;i50;j1;j2;j3;j4;j5;j6;j7;j8;j9;i60;j1;j2;j3;j4;j5;j6;j7;j8;
    0KHITAN SMALL SCRIPT CHARACTER-18B00;y1;y2;y3;y4;y5;y6;y7;y8;y9;yA;yB;yC;yD;yE;yF;x10;y1;y2;
    y3;y4;y5;y6;y7;y8;y9;yA;yB;yC;yD;yE;yF;x20;y1;y2;y3;y4;y5;y6;y7;y8;y9;yA;yB;yC;yD;yE;yF;x30;
    y1;y2;y3;y4;y5;y6;y7;y8;y9;yA;yB;yC;yD;yE;yF;x40;y1;y2;y3;y4;y5;y6;y7;y8;y9;yA;yB;yC;yD;yE;
    yF;x50;y1;y2;y3;y4;y5;y6;y7;y8;y9;yA;yB;yC;yD;yE;yF;x60;y1;y2;y3;y4;y5;y6;y7;y8;y9;yA;yB;yC;
    yD;yE;yF;x70;y1;y2;y3;y4;y5;y6;y7;y8;y9;yA;yB;yC;yD;yE;yF;x80;y1;y2;y3;y4;y5;y6;y7;y8;y9;yA;
    yB;yC;yD;yE;yF;x90;y1;y2;y3;y4;y5;y6;y7;y8;y9;yA;yB;yC;yD;yE;yF;xA0;y1;y2;y3;y4;y5;y6;y7;y8;
    y9;yA;yB;yC;yD;yE;yF;xB0;y1;y2;y3;y4;y5;y6;y7;y8;y9;yA;yB;yC;yD;yE;yF;xC0;y1;y2;y3;y4;y5;y6;
    y7;y8;y9;yA;yB;yC;yD;yE;yF;xD0;y1;y2;y3;y4;y5;y6;y7;y8;y9;yA;yB;yC;yD;yE;yF;xE0;y1;y2;y3;y4;
    y5;y6;y7;y8;y9;yA;yB;yC;yD;yE;yF;xF0;y1;y2;y3;y4;y5;y6;y7;y8;y9;yA;yB;yC;yD;yE;yF;wC00;y1;
    y2;y3;y4;y5;y6;y7;y8;y9;yA;yB;yC;yD;yE;yF;x10;y1;y2;y3;y4;y5;y6;y7;y8;y9;yA;yB;yC;yD;yE;yF;
    x20;y1;y2;y3;y4;y5;y6;y7;y8;y9;yA;yB;yC;yD;yE;yF;x30;y1;y2;y3;y4;y5;y6;y7;y8;y9;yA;yB;yC;yD;
    yE;yF;x40;y1;y2;y3;y4;y5;y6;y7;y8;y9;yA;yB;yC;yD;yE;yF;x50;y1;y2;y3;y4;y5;y6;y7;y8;y9;yA;yB;
    yC;yD;yE;yF;x60;y1;y2;y3;y4;y5;y6;y7;y8;y9;yA;yB;yC;yD;yE;yF;x70;y1;y2;y3;y4;y5;y6;y7;y8;y9;
    yA;yB;yC;yD;yE;yF;x80;y1;y2;y3;y4;y5;y6;y7;y8;y9;yA;yB;yC;yD;yE;yF;x90;y1;y2;y3;y4;y5;y6;y7;
    y8;y9;yA;yB;yC;yD;yE;yF;xA0;y1;y2;y3;y4;y5;y6;y7;y8;y9;yA;yB;yC;yD;yE;yF;xB0;y1;y2;y3;y4;y5;
    y6;y7;y8;y9;yA;yB;yC;yD;yE;yF;xC0;y1;y2;y3;y4;y5;y6;y7;y8;y9;yA;yB;yC;yD;yE;yF;xD0;y1;y2;y3;
    y4;y5;1AFF0=1ATAKANA LETTER MINNAN TONE-2;s3;s4;s5;1AFF5=s7;s8;nNASALIZED TONE-1;C2;C3;C4;
    C5;1AFFD=C7;C8;1B000=gARCHAIC E;0HIRAGANA LETTER ARCHAIC YE;1ENTAIGANA LETTER A-1;k2;k3;kWO;
    iI-1;k2;k3;k4;iU-1;k2;k3;k4;k5;iE-2;k3;k4;k5;k6;iO-1;k2;k3;iKA-1;l2;l3;l4;l5;l6;l7;l8;l9;
    l10;m1;lKE;jI-1;l2;l3;l4;l5;l6;l7;l8;jU-1;l2;l3;l4;l5;l6;l7;jE-1;l2;l3;l4;l5;l6;jO-1;l2;l3;
    lKI;iSA-1;l2;l3;l4;l5;l6;l7;l8;jI-1;l2;l3;l4;l5;l6;jU-1;l2;l3;l4;l5;l6;l7;l8;jE-1;l2;l3;l4;
    l5;jO-1;l2;l3;l4;l5;l6;l7;iTA-1;l2;l3;l4;jI-1;l2;l3;l4;l5;l6;l7;jU-1;l2;l3;l4;lTO;jE-1;l2;
    l3;l4;l5;l6;l7;l8;l9;jO-1;l2;l3;l4;l5;l6;lRA;iNA-1;l2;l3;l4;l5;l6;l7;l8;l9;jI-1;l2;l3;l4;l5;
    l6;l7;lTE;jU-1;l2;l3;jE-1;l2;l3;l4;l5;l6;lKO;jO-1;l2;l3;l4;l5;iHA-1;l2;l3;l4;l5;l6;l7;l8;l9;
    l10;m1;jI-1;l2;l3;l4;l5;l6;l7;jU-1;l2;l3;jE-1;l2;l3;l4;l5;l6;l7;jO-1;l2;l3;l4;l5;l6;l7;l8;
    iMA-1;l2;l3;l4;l5;l6;l7;jI-1;l2;l3;l4;l5;l6;l7;jU-1;l2;l3;l4;jE-1;l2;lMA;jO-1;l2;l3;l4;l5;
    l6;iYA-1;l2;l3;l4;l5;lYO;jU-1;l2;l3;l4;jO-1;l2;l3;l4;l5;l6;iRA-1;l2;l3;l4;jI-1;l2;l3;l4;l5;
    l6;l7;jU-1;l2;l3;l4;l5;l6;jE-1;l2;l3;l4;jO-1;l2;l3;l4;l5;l6;iWA-1;l2;l3;l4;l5;jI-1;l2;l3;l4;
    l5;jE-1;l2;l3;l4;jO-1;l2;l3;l4;l5;l6;l7;iN-MU-MO-1;q2;1IRAGANA LETTER ARCHAIC WU;
    0KATAKANA LETTER ARCHAIC YI;pE;oWU;1B150=0HIRAGANA LETTER SMALL WI;nE;nO;
    1B164=0KATAKANA LETTER SMALL WI;nE;nO;mN;1B170=0NUSHU CHARACTER-1B170;k1;k2;k3;k4;k5;k6;k7;
    k8;k9;kA;kB;kC;kD;kE;kF;j80;k1;k2;k3;k4;k5;k6;k7;k8;k9;kA;kB;kC;kD;kE;kF;j90;k1;k2;k3;k4;k5;
    k6;k7;k8;k9;kA;kB;kC;kD;kE;kF;jA0;k1;k2;k3;k4;k5;k6;k7;k8;k9;kA;kB;kC;kD;kE;kF;jB0;k1;k2;k3;
    k4;k5;k6;k7;k8;k9;kA;kB;kC;kD;kE;kF;jC0;k1;k2;k3;k4;k5;k6;k7;k8;k9;kA;kB;kC;kD;kE;kF;jD0;k1;
    k2;k3;k4;k5;k6;k7;k8;k9;kA;kB;kC;kD;kE;kF;jE0;k1;k2;k3;k4;k5;k6;k7;k8;k9;kA;kB;kC;kD;kE;kF;
    jF0;k1;k2;k3;k4;k5;k6;k7;k8;k9;kA;kB;kC;kD;kE;kF;i200;k1;k2;k3;k4;k5;k6;k7;k8;k9;kA;kB;kC;
    kD;kE;kF;j10;k1;k2;k3;k4;k5;k6;k7;k8;k9;kA;kB;kC;kD;kE;kF;j20;k1;k2;k3;k4;k5;k6;k7;k8;k9;kA;
    kB;kC;kD;kE;kF;j30;k1;k2;k3;k4;k5;k6;k7;k8;k9;kA;kB;kC;kD;kE;kF;j40;k1;k2;k3;k4;k5;k6;k7;k8;
    k9;kA;kB;kC;kD;kE;kF;j50;k1;k2;k3;k4;k5;k6;k7;k8;k9;kA;kB;kC;kD;kE;kF;j60;k1;k2;k3;k4;k5;k6;
    k7;k8;k9;kA;kB;kC;kD;kE;kF;j70;k1;k2;k3;k4;k5;k6;k7;k8;k9;kA;kB;kC;kD;kE;kF;j80;k1;k2;k3;k4;
    k5;k6;k7;k8;k9;kA;kB;kC;kD;kE;kF;j90;k1;k2;k3;k4;k5;k6;k7;k8;k9;kA;kB;kC;kD;kE;kF;jA0;k1;k2;
    k3;k4;k5;k6;k7;k8;k9;kA;kB;kC;kD;kE;kF;jB0;k1;k2;k3;k4;k5;k6;k7;k8;k9;kA;kB;kC;kD;kE;kF;jC0;
    k1;k2;k3;k4;k5;k6;k7;k8;k9;kA;kB;kC;kD;kE;kF;jD0;k1;k2;k3;k4;k5;k6;k7;k8;k9;kA;kB;kC;kD;kE;
    kF;jE0;k1;k2;k3;k4;k5;k6;k7;k8;k9;kA;kB;kC;kD;kE;kF;jF0;k1;k2;k3;k4;k5;k6;k7;k8;k9;kA;kB;
    1BC00=0DUPLOYAN LETTER H;gX;gP;gT;gF;gK;gL;gB;gD;gV;gG;gR;gP N;gD S;gF N;gK M;gR S;gTH;
    gSLOAN DH;gDH;gKK;gSLOAN J;gHL;gLH;gRH;gM;gN;gJ;gS;gM N;gN M;gJ M;gS J;gM WITH DOT;
    gN WITH DOT;gJ WITH DOT;qS INSIDE AND ABOVE;gS WITH DOT;q BELOW;gM S;gN S;gJ S;gS S;gM N S;
    gN M S;gJ M S;gS J S;gJ S WITH DOT;iN;j S;gS T;j R;iP;j R;gT S;iR S;gW;hH;h R;gS N;iM;
    gK R S;gG R S;gS K;j R;gA;gSLOAN OW;gOA;h;gAOU;gI;gE;gIE;gSHORT I;gUI;gEE;gSLOAN EH;
    gROMANIAN I;gSLOAN EE;gLONG I;gYE;gU;gEU;gXW;gU N;gLONG U;gROMANIAN U;gUH;gSLOAN U;gOOH;hW;
    hU;gWA;hO;hI;hEI;hOW;gNASAL U;mO;mI;mA;gPERNIN AN;oM;gSLOAN EN;mAN;mON;gVOCALIC M;
    1BC70=9AFFIX LEFT HORIZONTAL SECANT;fMID HORIZONTAL SECANT;fRIGHT HORIZONTAL SECANT;
    fLOW VERTICAL SECANT;fMID VERTICAL SECANT;fHIGH VERTICAL SECANT;fATTACHED SECANT;
    oLEFT-TO-RIGHT SECANT;oTANGENT;qIL;oE HOOK;oI HOOK;oTANGENT HOOK;1BC80=fHIGH ACUTE;
    kTIGHT ACUTE;kGRAVE;kLONG GRAVE;kDOT;kCIRCLE;kLINE;kWAVE;kVERTICAL;1BC90=fLOW ACUTE;
    jTIGHT ACUTE;jGRAVE;jLONG GRAVE;jDOT;jCIRCLE;jLINE;jWAVE;jVERTICAL;jARROW;
    1BC9C=9SIGN O WITH CROSS;9THICK LETTER SELECTOR;9DOUBLE MARK;9PUNCTUATION CHINOOK FULL STOP;
    0SHORTHAND FORMAT LETTER OVERLAP;hCONTINUING OVERLAP;hDOWN STEP;hUP STEP;
    1CF00=0ZNAMENNY COMBINING MARK GORAZDO NIZKO S KRYZHEM ON LEFT;oNIZKO S KRYZHEM ON LEFT;
    oTSATA ON LEFT;oGORAZDO NIZKO ON LEFT;oNIZKO ON LEFT;oSREDNE ON LEFT;oMALO POVYSHE ON LEFT;
    oPOVYSHE ON LEFT;oVYSOKO ON LEFT;oMALO POVYSHE S KHOKHLOM ON LEFT;
    oPOVYSHE S KHOKHLOM ON LEFT;oVYSOKO S KHOKHLOM ON LEFT;oGORAZDO NIZKO S KRYZHEM ON RIGHT;
    oNIZKO S KRYZHEM ON RIGHT;oTSATA ON RIGHT;oGORAZDO NIZKO ON RIGHT;oNIZKO ON RIGHT;
    oSREDNE ON RIGHT;oMALO POVYSHE ON RIGHT;oPOVYSHE ON RIGHT;oVYSOKO ON RIGHT;
    oMALO POVYSHE S KHOKHLOM ON RIGHT;oPOVYSHE S KHOKHLOM ON RIGHT;oVYSOKO S KHOKHLOM ON RIGHT;
    oTSATA S KRYZHEM;oMALO POVYSHE S KRYZHEM;oSTRANNO MALO POVYSHE;oPOVYSHE S KRYZHEM;xTRANNO;
    oVYSOKO S KRYZHEM;oMALO POVYSHE STRANNO;oGORAZDO VYSOKO;oZELO;oON;oRAVNO;oTIKHAYA;oBORZAYA;
    oUDARKA;oPODVERTKA;oLOMKA;oKUPNAYA;pACHKA;oZEVOK;oSKOBA;oRAZSEKA;oKRYZH ON LEFT;
    1CF30=jTONAL RANGE MARK MRACHNO;ASVETLO;ATRESVETLO;jMARK ZADERZHKA;oDEMESTVENNY ZADERZHKA;
    oOTSECHKA;oPODCHASHIE;y WITH VERTICAL STROKE;oCHASHKA;v POLNAYA;oOBLACHKO;oSOROCHYA NOZHKA;
    oTOCHKA;oDVOETOCHIE;jATTACHING VERTICAL OMET;jMARK CURVED OMET;oKRYZH;
    jLOWER TONAL RANGE INDICATOR;9PRIZNAK MODIFIER LEVEL-2;w3;qDIRECTION FLIP;qKRYZH;qROG;
    1CF50=9NEUME KRYUK;k TIKHY;fPARAKLIT;fDVA V CHELNU;fKLYUCH;fZANOZHEK;fSTOPITSA;n S OCHKOM;
    fPEREVODKA;o NEPOSTOYANNAYA;fSTOPITSA WITH SOROCHYA NOZHKA;fCHELYUSTKA;fPALKA;fZAPYATAYA;
    fGOLUBCHIK BORZY;pTIKHY;pMRACHNY;pSVETLY;pTRESVETLY;fVRAKHIYA PROSTAYA;oMRACHNAYA;oSVETLAYA;
    oTRESVETLAYA;oKLYUCHEVAYA PROSTAYA;AMRACHNAYA;ASVETLAYA;ATRESVETLAYA;fDOUBLE ZAPYATAYA;
    fREVERSED CHELYUSTKA;fDERBITSA;fKHAMILO;fCHASHKA;fPODCHASHIE;fSKAMEYTSA MRACHNAYA;pSVETLAYA;
    pTRESVETLAYA;qIKHAYA;fDEMESTVENNY KLYUCH;fSKAMEYTSA KLYUCHEVAYA SVETLAYA;wNEPOSTOYANNAYA;
    wVAYA TIKHAYA;pDVOECHELNAYA PROSTAYA;CSVETLAYA;CNEPOSTOYANNAYA;CKLYUCHEVAYA;gLOZHITIE;
    o S ZAPYATOY;pZAKRYTOE;pS KRYZHEM;fKRYZH;fROG;fFITA;fKOBYLA;fZMEYTSA;fSTATYA;l S ZAPYATOY;
    oKRYZHEM;oZAPYATOY I KRYZHEM;oKRYZHEM I ZAPYATOY;mZAKRYTAYA;v S ZAPYATOY;mS ROGOM;
    oDVUMYA ZAPYATYMI;oZAPYATOY I PODCHASHIEM;fPOLKULIZMY;fSTATYA NEPOSTOYANNAYA;hRELA PROSTAYA;
    mMRACHNOTIKHAYA;mKRYZHEVAYA;mPOLUPOVODNAYA;oVODNAYA;mNEPOSTOYANNAYA;mKLYUCHEPOVODNAYA;
    tNEPOSTOYANNAYA;mTIKHAYA PUTNAYA;mDVOECHELNAYA;vOKRYZHEVAYA;wPOVODNAYA;vAYA KLYUCHEVAYA;
    vOPOVODNAYA KLYUCHEVAYA;mGROMNAYA WITH SINGLE ZAPYATAYA;qOPOVODNAYA WITH SINGLE ZAPYATAYA;
    qNAYA;qOPOVODNAYA;A WITH DOUBLE ZAPYATAYA;rKRYZHEVAYA;B POVODNAYA;fMECHIK;l POVODNY;
    mKLYUCHEVOY;tPOVODNY;tNEPOSTOYANNY;fSTRELA TRYASOGLASNAYA;sPOVODNAYA;sSTRELNAYA;fOSOKA;
    k SVETLAYA;lTRESVETLAYA;lKRYUKOVAYA SVETLAYA;mLYUCHEVAYA SVETLAYA;xNEPOSTOYANNAYA;
    fSTRELA KRYUKOVAYA;w POVODNAYA;xGROMNAYA WITH SINGLE ZAPYATAYA;
    BOPOVODNAYA WITH SINGLE ZAPYATAYA;BNAYA;BOPOVODNAYA;L WITH DOUBLE ZAPYATAYA;CKRYZHEVAYA;
    M POVODNAYA;xTRYASKA;fKUFISMA;fOBLAKO;fDUDA;fNEMKA;fPAUK;
    1D000=0BYZANTINE MUSICAL SYMBOL PSILI;pDASEIA;pPERISPOMENI;pOXEIA EKFONITIKON;vDIPLI;
    pVAREIA EKFONITIKON;wDIPLI;pKATHISTI;pSYRMATIKI;pPARAKLITIKI;pYPOKRISIS;y DIPLI;pKREMASTI;
    pAPESO EKFONITIKON;pEXO EKFONITIKON;pTELEIA;pKENTIMATA;pAPOSTROFOS;z DIPLI;pSYNEVMA;pTHITA;
    pOLIGON ARCHAION;pGORGON ARCHAION;pPSILON;pCHAMILON;pVATHY;pISON ARCHAION;pKENTIMA ARCHAION;
    wTA ARCHAION;pSAXIMATA;pPARICHON;pSTAVROS APODEXIA;pOXEIAI ARCHAION;pVAREIAI ARCHAION;
    pAPODERMA ARCHAION;sTHEMA;pKLASMA;pREVMA;pPIASMA ARCHAION;pTINAGMA;pANATRICHISMA;pSEISMA;
    qYNAGMA ARCHAION;xMETA STAVROU;pOYRANISMA ARCHAION;pTHEMA;pLEMOI;pDYO;pTRIA;qESSERA;
    pKRATIMATA;pAPESO EXO NEO;pFTHORA ARCHAION;pIMIFTHORA;pTROMIKON ARCHAION;pKATAVA TROMIKON;
    pPELASTON;qSIFISTON;pKONTEVMA;pCHOREVMA ARCHAION;pRAPISMA;pPARAKALESMA ARCHAION;
    uLITIKI ARCHAION;pICHADIN;pNANA;pPETASMA;pKONTEVMA ALLO;pTROMIKON ALLO;pSTRAGGISMATA;
    pGRONTHISMATA;pISON NEO;pOLIGON NEO;qXEIA NEO;pPETASTI;pKOUFISMA;pPETASTOKOUFISMA;
    pKRATIMOKOUFISMA;pPELASTON NEO;pKENTIMATA NEO ANO;w NEO ANO;pYPSILI;pAPOSTROFOS NEO;
    yI SYNDESMOS NEO;pYPORROI;pKRATIMOYPORROON;pELAFRON;pCHAMILI;pMIKRON ISON;pVAREIA NEO;
    pPIASMA NEO;qSIFISTON NEO;pOMALON;pANTIKENOMA;pLYGISMA;pPARAKLITIKI NEO;uALESMA NEO;
    pETERON PARAKALESMA;pKYLISMA;pANTIKENOKYLISMA;pTROMIKON NEO;pEKSTREPTON;pSYNAGMA NEO;rRMA;
    pCHOREVMA NEO;pEPEGERMA;pSEISMA NEO;pXIRON KLASMA;pTROMIKOPSIFISTON;pPSIFISTOLYGISMA;
    pTROMIKOLYGISMA;wPARAKALESMA;pPSIFISTOPARAKALESMA;pTROMIKOSYNAGMA;pPSIFISTOSYNAGMA;
    pGORGOSYNTHETON;pARGOSYNTHETON;pETERON ARGOSYNTHETON;pOYRANISMA NEO;pTHEMATISMOS ESO;CXO;
    u APLOUN;sS KAI APOTHES;pKATAVASMA;pENDOFONON;pYFEN KATO;uANO;pSTAVROS;pKLASMA ANO;
    pDIPLI ARCHAION;pKRATIMA ARCHAION;yLLO;xNEO;pAPODERMA NEO;rLI;pDIPLI;pTRIPLI;qETRAPLI;
    pKORONIS;pLEIMMA ENOS CHRONOU;wDYO CHRONON;wTRION CHRONON;xESSARON CHRONON;wIMISEOS CHRONOU;
    pGORGON NEO ANO;wPARESTIGMENON ARISTERA;KDEXIA;pDIGORGON;x PARESTIGMENON ARISTERA KATO;VANO;
    MDEXIA;pTRIGORGON;pARGON;pIMIDIARGON;pDIARGON;pAGOGI POLI ARGI;vARGOTERI;yI;vMETRIA;xSI;
    vGORGI;zOTERI;vPOLI GORGI;pMARTYRIA PROTOS ICHOS;yALLI PROTOS ICHOS;yDEYTEROS ICHOS;
    yALLI DEYTEROS ICHOS;yTRITOS ICHOS;BFONIAS;zETARTOS ICHOS;HLEGETOS ICHOS;yLEGETOS ICHOS;
    yPLAGIOS ICHOS;pISAKIA TELOUS ICHIMATOS;pAPOSTROFOI TELOUS ICHIMATOS;pFANEROSIS TETRAFONIAS;
    zMONOFONIAS;zDIFONIAS;pMARTYRIA VARYS ICHOS;yPROTOVARYS ICHOS;zLAGIOS TETARTOS ICHOS;
    pGORTHMIKON N APLOUN;CDIPLOUN;pENARXIS KAI FTHORA VOU;pIMIFONON;tTHORON;
    pFTHORA ARCHAION DEYTEROU ICHOU;wDIATONIKI PA;GNANA;wNAOS ICHOS;wDIATONIKI DI;
    wSKLIRON DIATONON DI;wDIATONIKI KE;GZO;GNI KATO;JANO;wMALAKON CHROMA DIFONIAS;LMONOFONIAS;
    qHTORA SKLIRON CHROMA VASIS;qTHORA SKLIRON CHROMA SYNAFI;wNENANO;pCHROA ZYGOS;vKLITON;
    vSPATHI;pFTHORA I YFESIS TETARTIMORION;wENARMONIOS ANTIFONIA;pYFESIS TRITIMORION;
    pDIESIS TRITIMORION;xETARTIMORION;wAPLI DYO DODEKATA;wMONOGRAMMOS TESSERA DODEKATA;
    wDIGRAMMOS EX DODEKATA;wTRIGRAMMOS OKTO DODEKATA;pYFESIS APLI DYO DODEKATA;
    wMONOGRAMMOS TESSERA DODEKATA;wDIGRAMMOS EX DODEKATA;wTRIGRAMMOS OKTO DODEKATA;
    pGENIKI DIESIS;wYFESIS;pDIASTOLI APLI MIKRI;EEGALI;yDIPLI;yTHESEOS;pSIMANSIS THESEOS;
    F DISIMOU;GTRISIMOU;HETRASIMOU;yARSEOS;E DISIMOU;FTRISIMOU;GETRASIMOU;pDIGRAMMA GG;
    rFTOGGOS OU;pSTIGMA;pARKTIKO PA;xVOU;xGA;xDI;xKE;xZO;xNI;pKENTIMATA NEO MESO;w NEO MESO;
    wTA NEO KATO;w NEO KATO;qLASMA KATO;pGORGON NEO KATO;1D100=0MUSICAL SYMBOL SINGLE BARLINE;
    fDOUBLE BARLINE;fFINAL BARLINE;fREVERSE FINAL BARLINE;fDASHED BARLINE;fSHORT BARLINE;
    fLEFT REPEAT SIGN;fRIGHT REPEAT SIGN;gEPEAT DOTS;fDAL SEGNO;h CAPO;fSEGNO;fCODA;
    fREPEATED FIGURE-1;v2;v3;fFERMATA;m BELOW;fBREATH MARK;fCAESURA;fBRACE;jKET;fONE-LINE STAFF;
    fTWO-LINE STAFF;gHREE-LINE STAFF;fFOUR-LINE STAFF;gIVE-LINE STAFF;fSIX-LINE STAFF;
    jSTRING FRETBOARD;fFOUR-STRING FRETBOARD;fG CLEF;l OTTAVA ALTA;tBASSA;fC CLEF;fF CLEF;
    l OTTAVA ALTA;tBASSA;fDRUM CLEF-1;p2;1D129=fMULTIPLE MEASURE REST;fDOUBLE SHARP;mFLAT;
    fFLAT UP;kDOWN;fNATURAL UP;nDOWN;fSHARP UP;lDOWN;fQUARTER TONE SHARP;sFLAT;fCOMMON TIME;
    gUT TIME;fOTTAVA ALTA;mBASSA;fQUINDICESIMA ALTA;sBASSA;fMULTI REST;fWHOLE REST;fHALF REST;
    fQUARTER REST;fEIGHTH REST;fSIXTEENTH REST;fTHIRTY-SECOND REST;fSIXTY-FOURTH REST;
    fONE HUNDRED TWENTY-EIGHTH REST;fX NOTEHEAD;fPLUS NOTEHEAD;fCIRCLE X NOTEHEAD;
    fSQUARE NOTEHEAD WHITE;vBLACK;fTRIANGLE NOTEHEAD UP WHITE;ABLACK;xLEFT WHITE;CBLACK;
    xRIGHT WHITE;DBLACK;xDOWN WHITE;CBLACK;xUP RIGHT WHITE;GBLACK;fMOON NOTEHEAD WHITE;tBLACK;
    fTRIANGLE-ROUND NOTEHEAD DOWN WHITE;IBLACK;fPARENTHESIS NOTEHEAD;fVOID NOTEHEAD;
    fNOTEHEAD BLACK;gULL NOTEHEAD;fCLUSTER NOTEHEAD WHITE;wBLACK;fBREVE;fWHOLE NOTE;fHALF NOTE;
    fQUARTER NOTE;fEIGHTH NOTE;fSIXTEENTH NOTE;fTHIRTY-SECOND NOTE;fSIXTY-FOURTH NOTE;
    fONE HUNDRED TWENTY-EIGHTH NOTE;fCOMBINING STEM;qPRECHGESANG STEM;pTREMOLO-1;x2;x3;
    fFINGERED TREMOLO-1;w2;w3;fCOMBINING AUGMENTATION DOT;pFLAG-1;u2;u3;u4;u5;fBEGIN BEAM;
    fEND BEAM;fBEGIN TIE;fEND TIE;fBEGIN SLUR;fEND SLUR;fBEGIN PHRASE;fEND PHRASE;
    fCOMBINING ACCENT;pSTACCATO;pTENUTO;pSTACCATISSIMO;pMARCATO;w-STACCATO;pACCENT-STACCATO;
    pLOURE;fARPEGGIATO UP;qDOWN;fCOMBINING DOIT;pRIP;pFLIP;pSMEAR;pBEND;pDOUBLE TONGUE;
    pTRIPLE TONGUE;fRINFORZANDO;fSUBITO;fZ;fPIANO;fMEZZO;fFORTE;fCRESCENDO;fDECRESCENDO;
    fGRACE NOTE SLASH;qNO SLASH;fTR;gURN;fINVERTED TURN;fTURN SLASH;kUP;fORNAMENT STROKE-1;v2;
    v3;v4;v5;v6;v7;v8;v9;v10;w1;fHAUPTSTIMME;fNEBENSTIMME;fEND OF STIMME;fDEGREE SLASH;
    fCOMBINING DOWN BOW;pUP BOW;pHARMONIC;pSNAP PIZZICATO;fPEDAL MARK;lUP MARK;fHALF PEDAL MARK;
    fGLISSANDO UP;pDOWN;fWITH FINGERNAILS;fDAMP;j ALL;fMAXIMA;fLONGA;fBREVIS;fSEMIBREVIS WHITE;
    qBLACK;fMINIMA;l BLACK;fSEMIMINIMA WHITE;qBLACK;fFUSA WHITE;kBLACK;fLONGA PERFECTA REST;
    lIMPERFECTA REST;fBREVIS REST;fSEMIBREVIS REST;fMINIMA REST;fSEMIMINIMA REST;
    fTEMPUS PERFECTUM CUM PROLATIONE PERFECTA;LIMPERFECTA;LPERFECTA DIMINUTION-1;
    mIMPERFECTUM CUM PROLATIONE PERFECTA;NIMPERFECTA;X DIMINUTION-1;ZIMINUTION-2;ZIMINUTION-3;
    fCROIX;fGREGORIAN C CLEF;pF CLEF;fSQUARE B;fVIRGA;fPODATUS;fCLIVIS;fSCANDICUS;fCLIMACUS;
    fTORCULUS;fPORRECTUS;o FLEXUS;fSCANDICUS FLEXUS;fTORCULUS RESUPINUS;fPES SUBPUNCTIS;
    fKIEVAN C CLEF;mEND OF PIECE;mFINAL NOTE;mRECITATIVE MARK;mWHOLE NOTE;mHALF NOTE;
    mQUARTER NOTE STEM DOWN;EUP;mEIGHTH NOTE STEM DOWN;DUP;mFLAT SIGN;fSORI;fKORON;
    1D200=0GREEK VOCAL NOTATION SYMBOL-1;s2;s3;s4;s5;s6;s7;s8;s9;s10;t1;t2;t3;t4;t5;t6;t7;t8;t9;
    s20;t1;t2;t3;t4;s50;t1;t2;t3;t4;6INSTRUMENTAL NOTATION SYMBOL-1;z2;z4;z5;z7;z8;z11;A2;A3;A4;
    A7;A8;A9;z23;A4;A5;A6;A7;A9;z30;A2;A6;A7;A8;A9;z40;A2;A3;A5;A7;A8;A9;z50;A1;A2;A3;A4;
    0COMBINING GREEK MUSICAL TRISEME;pETRASEME;oPENTASEME;0GREEK MUSICAL LEIMMA;
    1D2E0=0MAYAN NUMERAL ZERO;eONE;eTWO;fHREE;eFOUR;fIVE;eSIX;fEVEN;eEIGHT;eNINE;eTEN;eELEVEN;
    eTWELVE;fHIRTEEN;eFOURTEEN;fIFTEEN;eSIXTEEN;fEVENTEEN;eEIGHTEEN;eNINETEEN;
    1D300=1ONOGRAM FOR EARTH;0DIGRAM FOR HEAVENLY EARTH;cUMAN EARTH;bEARTHLY HEAVEN;kUMAN;g;
    0TETRAGRAM FOR CENTRE;eFULL CIRCLE;eMIRED;eBARRIER;eKEEPING SMALL;eCONTRARIETY;eASCENT;
    eOPPOSITION;eBRANCHING OUT;eDEFECTIVENESS OR DISTORTION;fIVERGENCE;eYOUTHFULNESS;eINCREASE;
    ePENETRATION;eREACH;eCONTACT;eHOLDING BACK;eWAITING;eFOLLOWING;eADVANCE;eRELEASE;gSISTANCE;
    eEASE;eJOY;eCONTENTION;eENDEAVOUR;eDUTIES;eCHANGE;eDECISIVENESS;eBOLD RESOLUTION;ePACKING;
    eLEGION;eCLOSENESS;eKINSHIP;eGATHERING;eSTRENGTH;ePURITY;eFULLNESS;eRESIDENCE;eLAW OR MODEL;
    eRESPONSE;eGOING TO MEET;eENCOUNTERS;eSTOVE;eGREATNESS;eENLARGEMENT;ePATTERN;eRITUAL;
    eFLIGHT;eVASTNESS OR WASTING;eCONSTANCY;eMEASURE;eETERNITY;eUNITY;eDIMINISHMENT;
    eCLOSED MOUTH;eGUARDEDNESS;fATHERING IN;eMASSING;eACCUMULATION;eEMBELLISHMENT;eDOUBT;eWATCH;
    eSINKING;eINNER;eDEPARTURE;fARKENING;fIMMING;eEXHAUSTION;eSEVERANCE;fTOPPAGE;eHARDNESS;
    eCOMPLETION;fLOSURE;eFAILURE;eAGGRAVATION;eCOMPLIANCE;eON THE VERGE;eDIFFICULTIES;
    eLABOURING;eFOSTERING;1D360=0COUNTING ROD UNIT DIGIT ONE;oTWO;pHREE;oFOUR;pIVE;oSIX;pEVEN;
    oEIGHT;oNINE;dTENS DIGIT ONE;oTWO;pHREE;oFOUR;pIVE;oSIX;pEVEN;oEIGHT;oNINE;
    0IDEOGRAPHIC TALLY MARK ONE;nTWO;oHREE;nFOUR;oIVE;0TALLY MARK ONE;bFIVE;
    1D400=0MATHEMATICAL BOLD CAPITAL A;qB;qC;qD;qE;qF;qG;qH;qI;qJ;qK;qL;qM;qN;qO;qP;qQ;qR;qS;qT;
    qU;qV;qW;qX;qY;qZ;iSMALL A;oB;oC;oD;oE;oF;oG;oH;oI;oJ;oK;oL;oM;oN;oO;oP;oQ;oR;oS;oT;oU;oV;
    oW;oX;oY;oZ;dITALIC CAPITAL A;sB;sC;sD;sE;sF;sG;sH;sI;sJ;sK;sL;sM;sN;sO;sP;sQ;sR;sS;sT;sU;
    sV;sW;sX;sY;sZ;kSMALL A;qB;qC;qD;qE;qF;qG;1D456=qI;qJ;qK;qL;qM;qN;qO;qP;qQ;qR;qS;qT;qU;qV;
    qW;qX;qY;qZ;dBOLD ITALIC CAPITAL A;xB;xC;xD;xE;xF;xG;xH;xI;xJ;xK;xL;xM;xN;xO;xP;xQ;xR;xS;xT;
    xU;xV;xW;xX;xY;xZ;pSMALL A;vB;vC;vD;vE;vF;vG;vH;vI;vJ;vK;vL;vM;vN;vO;vP;vQ;vR;vS;vT;vU;vV;
    vW;vX;vY;vZ;dSCRIPT CAPITAL A;1D49E=sC;sD;1D4A2=sG;1D4A5=sJ;sK;1D4A9=sN;sO;sP;sQ;1D4AE=sS;
    sT;sU;sV;sW;sX;sY;sZ;kSMALL A;qB;qC;qD;1D4BB=qF;1D4BD=qH;qI;qJ;qK;qL;qM;qN;1D4C5=qP;qQ;qR;
    qS;qT;qU;qV;qW;qX;qY;qZ;dBOLD SCRIPT CAPITAL A;xB;xC;xD;xE;xF;xG;xH;xI;xJ;xK;xL;xM;xN;xO;xP;
    xQ;xR;xS;xT;xU;xV;xW;xX;xY;xZ;pSMALL A;vB;vC;vD;vE;vF;vG;vH;vI;vJ;vK;vL;vM;vN;vO;vP;vQ;vR;
    vS;vT;vU;vV;vW;vX;vY;vZ;dFRAKTUR CAPITAL A;tB;1D507=tD;tE;tF;tG;1D50D=tJ;tK;tL;tM;tN;tO;tP;
    tQ;1D516=tS;tT;tU;tV;tW;tX;tY;1D51E=lSMALL A;rB;rC;rD;rE;rF;rG;rH;rI;rJ;rK;rL;rM;rN;rO;rP;
    rQ;rR;rS;rT;rU;rV;rW;rX;rY;rZ;dDOUBLE-STRUCK CAPITAL A;zB;1D53B=zD;zE;zF;zG;1D540=zI;zJ;zK;
    zL;zM;1D546=zO;1D54A=zS;zT;zU;zV;zW;zX;zY;1D552=rSMALL A;xB;xC;xD;xE;xF;xG;xH;xI;xJ;xK;xL;
    xM;xN;xO;xP;xQ;xR;xS;xT;xU;xV;xW;xX;xY;xZ;dBOLD FRAKTUR CAPITAL A;yB;yC;yD;yE;yF;yG;yH;yI;
    yJ;yK;yL;yM;yN;yO;yP;yQ;yR;yS;yT;yU;yV;yW;yX;yY;yZ;qSMALL A;wB;wC;wD;wE;wF;wG;wH;wI;wJ;wK;
    wL;wM;wN;wO;wP;wQ;wR;wS;wT;wU;wV;wW;wX;wY;wZ;dSANS-SERIF CAPITAL A;wB;wC;wD;wE;wF;wG;wH;wI;
    wJ;wK;wL;wM;wN;wO;wP;wQ;wR;wS;wT;wU;wV;wW;wX;wY;wZ;oSMALL A;uB;uC;uD;uE;uF;uG;uH;uI;uJ;uK;
    uL;uM;uN;uO;uP;uQ;uR;uS;uT;uU;uV;uW;uX;uY;uZ;oBOLD CAPITAL A;BB;BC;BD;BE;BF;BG;BH;BI;BJ;BK;
    BL;BM;BN;BO;BP;BQ;BR;BS;BT;BU;BV;BW;BX;BY;BZ;tSMALL A;zB;zC;zD;zE;zF;zG;zH;zI;zJ;zK;zL;zM;
    zN;zO;zP;zQ;zR;zS;zT;zU;zV;zW;zX;zY;zZ;oITALIC CAPITAL A;DB;DC;DD;DE;DF;DG;DH;DI;DJ;DK;DL;
    DM;DN;DO;DP;DQ;DR;DS;DT;DU;DV;DW;DX;DY;DZ;vSMALL A;BB;BC;BD;BE;BF;BG;BH;BI;BJ;BK;BL;BM;BN;
    BO;BP;BQ;BR;BS;BT;BU;BV;BW;BX;BY;BZ;oBOLD ITALIC CAPITAL A;IB;IC;ID;IE;IF;IG;IH;II;IJ;IK;IL;
    IM;IN;IO;IP;IQ;IR;IS;IT;IU;IV;IW;IX;IY;IZ;ASMALL A;GB;GC;GD;GE;GF;GG;GH;GI;GJ;GK;GL;GM;GN;
    GO;GP;GQ;GR;GS;GT;GU;GV;GW;GX;GY;GZ;dMONOSPACE CAPITAL A;vB;vC;vD;vE;vF;vG;vH;vI;vJ;vK;vL;
    vM;vN;vO;vP;vQ;vR;vS;vT;vU;vV;vW;vX;vY;vZ;nSMALL A;tB;tC;tD;tE;tF;tG;tH;tI;tJ;tK;tL;tM;tN;
    tO;tP;tQ;tR;tS;tT;tU;tV;tW;tX;tY;tZ;dITALIC SMALL DOTLESS I;yJ;1D6A8=dBOLD CAPITAL ALPHA;
    qBETA;qGAMMA;qDELTA;qEPSILON;qZETA;qETA;qTHETA;qIOTA;qKAPPA;qLAMDA;qMU;qNU;qXI;qOMICRON;qPI;
    qRHO;qTHETA SYMBOL;qSIGMA;qTAU;qUPSILON;qPHI;qCHI;qPSI;qOMEGA;iNABLA;iSMALL ALPHA;oBETA;
    oGAMMA;oDELTA;oEPSILON;oZETA;oETA;oTHETA;oIOTA;oKAPPA;oLAMDA;oMU;oNU;oXI;oOMICRON;oPI;oRHO;
    oFINAL SIGMA;oSIGMA;oTAU;oUPSILON;oPHI;oCHI;oPSI;oOMEGA;iPARTIAL DIFFERENTIAL;
    iEPSILON SYMBOL;iTHETA SYMBOL;iKAPPA SYMBOL;iPHI SYMBOL;iRHO SYMBOL;iPI SYMBOL;
    dITALIC CAPITAL ALPHA;sBETA;sGAMMA;sDELTA;sEPSILON;sZETA;sETA;sTHETA;sIOTA;sKAPPA;sLAMDA;
    sMU;sNU;sXI;sOMICRON;sPI;sRHO;sTHETA SYMBOL;sSIGMA;sTAU;sUPSILON;sPHI;sCHI;sPSI;sOMEGA;
    kNABLA;kSMALL ALPHA;qBETA;qGAMMA;qDELTA;qEPSILON;qZETA;qETA;qTHETA;qIOTA;qKAPPA;qLAMDA;qMU;
    qNU;qXI;qOMICRON;qPI;qRHO;qFINAL SIGMA;qSIGMA;qTAU;qUPSILON;qPHI;qCHI;qPSI;qOMEGA;
    kPARTIAL DIFFERENTIAL;kEPSILON SYMBOL;kTHETA SYMBOL;kKAPPA SYMBOL;kPHI SYMBOL;kRHO SYMBOL;
    kPI SYMBOL;dBOLD ITALIC CAPITAL ALPHA;xBETA;xGAMMA;xDELTA;xEPSILON;xZETA;xETA;xTHETA;xIOTA;
    xKAPPA;xLAMDA;xMU;xNU;xXI;xOMICRON;xPI;xRHO;xTHETA SYMBOL;xSIGMA;xTAU;xUPSILON;xPHI;xCHI;
    xPSI;xOMEGA;pNABLA;pSMALL ALPHA;vBETA;vGAMMA;vDELTA;vEPSILON;vZETA;vETA;vTHETA;vIOTA;vKAPPA;
    vLAMDA;vMU;vNU;vXI;vOMICRON;vPI;vRHO;vFINAL SIGMA;vSIGMA;vTAU;vUPSILON;vPHI;vCHI;vPSI;
    vOMEGA;pPARTIAL DIFFERENTIAL;pEPSILON SYMBOL;pTHETA SYMBOL;pKAPPA SYMBOL;pPHI SYMBOL;
    pRHO SYMBOL;pPI SYMBOL;dSANS-SERIF BOLD CAPITAL ALPHA;BBETA;BGAMMA;BDELTA;BEPSILON;BZETA;
    BETA;BTHETA;BIOTA;BKAPPA;BLAMDA;BMU;BNU;BXI;BOMICRON;BPI;BRHO;BTHETA SYMBOL;BSIGMA;BTAU;
    BUPSILON;BPHI;BCHI;BPSI;BOMEGA;tNABLA;tSMALL ALPHA;zBETA;zGAMMA;zDELTA;zEPSILON;zZETA;zETA;
    zTHETA;zIOTA;zKAPPA;zLAMDA;zMU;zNU;zXI;zOMICRON;zPI;zRHO;zFINAL SIGMA;zSIGMA;zTAU;zUPSILON;
    zPHI;zCHI;zPSI;zOMEGA;tPARTIAL DIFFERENTIAL;tEPSILON SYMBOL;tTHETA SYMBOL;tKAPPA SYMBOL;
    tPHI SYMBOL;tRHO SYMBOL;tPI SYMBOL;tITALIC CAPITAL ALPHA;IBETA;IGAMMA;IDELTA;IEPSILON;IZETA;
    IETA;ITHETA;IIOTA;IKAPPA;ILAMDA;IMU;INU;IXI;IOMICRON;IPI;IRHO;ITHETA SYMBOL;ISIGMA;ITAU;
    IUPSILON;IPHI;ICHI;IPSI;IOMEGA;ANABLA;ASMALL ALPHA;GBETA;GGAMMA;GDELTA;GEPSILON;GZETA;GETA;
    GTHETA;GIOTA;GKAPPA;GLAMDA;GMU;GNU;GXI;GOMICRON;GPI;GRHO;GFINAL SIGMA;GSIGMA;GTAU;GUPSILON;
    GPHI;GCHI;GPSI;GOMEGA;APARTIAL DIFFERENTIAL;AEPSILON SYMBOL;ATHETA SYMBOL;AKAPPA SYMBOL;
    APHI SYMBOL;ARHO SYMBOL;API SYMBOL;dBOLD CAPITAL DIGAMMA;iSMALL DIGAMMA;1D7CE=iDIGIT ZERO;
    oONE;oTWO;pHREE;oFOUR;pIVE;oSIX;pEVEN;oEIGHT;oNINE;dDOUBLE-STRUCK DIGIT ZERO;xONE;xTWO;
    yHREE;xFOUR;yIVE;xSIX;yEVEN;xEIGHT;xNINE;dSANS-SERIF DIGIT ZERO;uONE;uTWO;vHREE;uFOUR;vIVE;
    uSIX;vEVEN;uEIGHT;uNINE;oBOLD DIGIT ZERO;zONE;zTWO;AHREE;zFOUR;AIVE;zSIX;AEVEN;zEIGHT;zNINE;
    dMONOSPACE DIGIT ZERO;tONE;tTWO;uHREE;tFOUR;uIVE;tSIX;uEVEN;tEIGHT;tNINE;
    0SIGNWRITING HAND-FIST INDEX;hCIRCLE INDEX;iUP INDEX;hOVAL INDEX;hHINGE INDEX;hANGLE INDEX;
    hFIST INDEX BENT;hCIRCLE INDEX BENT;hFIST THUMB UNDER INDEX BENT;mINDEX RAISED KNUCKLE;
    sCUPPED;sHINGED;y LOW;hCIRCLE INDEX HINGE;hFIST INDEX MIDDLE;hCIRCLE INDEX MIDDLE;
    hFIST INDEX MIDDLE BENT;zRAISED KNUCKLES;zHINGED;sUP MIDDLE HINGED;sHINGED MIDDLE UP;
    sMIDDLE CONJOINED;I INDEX BENT;JMIDDLE BENT;JCUPPED;JHINGED;AROSSED;
    hCIRCLE INDEX MIDDLE CROSSED;hFIST MIDDLE BENT OVER INDEX;mINDEX BENT OVER MIDDLE;
    sMIDDLE THUMB;hCIRCLE INDEX MIDDLE THUMB;hFIST INDEX MIDDLE STRAIGHT THUMB BENT;
    zBENT THUMB STRAIGHT;zTHUMB BENT;zHINGED SPREAD THUMB SIDE;sUP MIDDLE HINGED THUMB SIDE;
    PCONJOINED;sHINGED MIDDLE UP THUMB SIDE;sMIDDLE UP SPREAD THUMB FORWARD;zTHUMB CUPPED;
    GIRCLED;FHOOKED;GINGED;mTHUMB BETWEEN INDEX MIDDLE STRAIGHT;
    mINDEX MIDDLE CONJOINED THUMB SIDE;T CONJOINED;UBENT;mMIDDLE THUMB HOOKED INDEX UP;
    mINDEX THUMB HOOKED MIDDLE UP;sMIDDLE CONJOINED HINGED THUMB SIDE;AROSSED THUMB SIDE;
    AONJOINED THUMB FORWARD;JCUPPED THUMB FORWARD;mMIDDLE THUMB CUPPED INDEX UP;
    mINDEX THUMB CUPPED MIDDLE UP;mMIDDLE THUMB CIRCLED INDEX UP;NHINGED;
    mINDEX THUMB ANGLED OUT MIDDLE UP;FIN MIDDLE UP;yCIRCLED MIDDLE UP;
    sMIDDLE THUMB CONJOINED HINGED;FANGLED OUT;L;mMIDDLE THUMB ANGLED OUT INDEX UP;QCROSSED;
    GINDEX UP;mINDEX THUMB HOOKED MIDDLE HINGED;iLAT FOUR FINGERS;y BENT;zHINGED;zCONJOINED;
    I SPLIT;hCLAW FOUR FINGERS CONJOINED;hFIST FOUR FINGERS CONJOINED BENT;
    hHINGE FOUR FINGERS CONJOINED;hFLAT FIVE FINGERS SPREAD;mHEEL FIVE FINGERS SPREAD;
    mFIVE FINGERS SPREAD FOUR BENT;mHEEL FIVE FINGERS SPREAD FOUR BENT;
    mFIVE FINGERS SPREAD BENT;mHEEL FIVE FINGERS SPREAD BENT;mFIVE FINGERS SPREAD THUMB FORWARD;
    hCUP FIVE FINGERS SPREAD;E OPEN;hHINGE FIVE FINGERS SPREAD OPEN;hOVAL FIVE FINGERS SPREAD;
    hFLAT FIVE FINGERS SPREAD HINGED;M THUMB SIDE;NNO THUMB;l;l BETWEEN PALM FACINGS;mHEEL;
    mTHUMB SIDE;mHEEL THUMB SIDE;mTHUMB BENT;sFORWARD;mSPLIT INDEX THUMB SIDE;sCENTRE;
    y THUMB SIDE;J BENT;sLITTLE;hCLAW;l THUMB SIDE;mNO THUMB;mTHUMB FORWARD;hHOOK CURLICUE;l;
    hCUP OPEN;k;k OPEN THUMB SIDE;lTHUMB SIDE;lOPEN NO THUMB;lNO THUMB;lOPEN THUMB FORWARD;
    lTHUMB FORWARD;jRLICUE OPEN;p;iIRCLE;hOVAL;l THUMB SIDE;mNO THUMB;mTHUMB FORWARD;
    hHINGE OPEN;r THUMB FORWARD;m;m SMALL;nOPEN THUMB SIDE;nTHUMB SIDE;nOPEN NO THUMB;nNO THUMB;
    nTHUMB SIDE TOUCHING INDEX;tBETWEEN MIDDLE RING;hANGLE;hFIST INDEX MIDDLE RING;
    hCIRCLE INDEX MIDDLE RING;hHINGE INDEX MIDDLE RING;hANGLE INDEX MIDDLE RING;hHINGE LITTLE;
    hFIST INDEX MIDDLE RING BENT;ECONJOINED;hHINGE INDEX MIDDLE RING CONJOINED;
    hFIST LITTLE DOWN;x RIPPLE STRAIGHT;FCURVED;yOTHERS CIRCLED;tUP;mTHUMB UNDER LITTLE UP;
    hCIRCLE LITTLE UP;hOVAL LITTLE UP;hANGLE LITTLE UP;hFIST LITTLE RAISED KNUCKLE;tBENT;
    tTOUCHES THUMB;uHUMB;hHINGE LITTLE THUMB;hFIST LITTLE INDEX THUMB;hHINGE LITTLE INDEX THUMB;
    hANGLE LITTLE INDEX THUMB INDEX THUMB OUT;R;hFIST LITTLE INDEX;hCIRCLE LITTLE INDEX;
    hHINGE LITTLE INDEX;hANGLE LITTLE INDEX;hFIST INDEX MIDDLE LITTLE;
    hCIRCLE INDEX MIDDLE LITTLE;hHINGE INDEX MIDDLE LITTLE;nRING;hANGLE INDEX MIDDLE LITTLE;
    hFIST INDEX MIDDLE CROSS LITTLE;hCIRCLE INDEX MIDDLE CROSS LITTLE;hFIST RING DOWN;
    hHINGE RING DOWN INDEX THUMB HOOK MIDDLE;hANGLE RING DOWN MIDDLE THUMB INDEX CROSS;
    hFIST RING UP;rRAISED KNUCKLE;rLITTLE;hCIRCLE RING LITTLE;hOVAL RING LITTLE;
    hANGLE RING LITTLE;hFIST RING MIDDLE;x CONJOINED;yRAISED KNUCKLES;rINDEX;rTHUMB;
    hHOOK RING THUMB;hFIST INDEX RING LITTLE;hCIRCLE INDEX RING LITTLE;
    iURLICUE INDEX RING LITTLE ON;hHOOK INDEX RING LITTLE OUT;EIN;EUNDER;hCUP INDEX RING LITTLE;
    hHINGE INDEX RING LITTLE;hANGLE INDEX RING LITTLE OUT;E;hFIST MIDDLE DOWN;hHINGE MIDDLE;
    hFIST MIDDLE UP;hCIRCLE MIDDLE UP;hFIST MIDDLE RAISED KNUCKLE;tUP THUMB SIDE;
    hHOOK MIDDLE THUMB;hFIST MIDDLE THUMB LITTLE;tLITTLE;tRING LITTLE;
    hCIRCLE MIDDLE RING LITTLE;iURLICUE MIDDLE RING LITTLE ON;jP MIDDLE RING LITTLE;
    hHINGE MIDDLE RING LITTLE;hANGLE MIDDLE RING LITTLE OUT;GIN;F;
    hCIRCLE MIDDLE RING LITTLE BENT;iLAW MIDDLE RING LITTLE CONJOINED;O SIDE;
    hHOOK MIDDLE RING LITTLE CONJOINED OUT;PIN;O;iINGE INDEX HINGED;hFIST INDEX THUMB SIDE;
    hHINGE INDEX THUMB SIDE;hFIST INDEX THUMB SIDE THUMB DIAGONAL;JCONJOINED;JBENT;DINDEX BENT;
    DBOTH BENT;DINDEX HINGE;yFORWARD INDEX STRAIGHT;MBENT;yHOOK;yCURLICUE;BVE THUMB INSIDE;
    hCLAW INDEX THUMB CURVE THUMB INSIDE;hFIST INDEX THUMB CURVE THUMB UNDER;zIRCLE;
    hCUP INDEX THUMB;w OPEN;hHINGE INDEX THUMB OPEN;zLARGE;y;y SMALL;hANGLE INDEX THUMB OUT;zIN;
    y;hFIST THUMB;r HEEL;sSIDE DIAGONAL;xCONJOINED;xBENT;sFORWARD;sBETWEEN INDEX MIDDLE;
    AMIDDLE RING;ARING LITTLE;sUNDER TWO FINGERS;sOVER TWO FINGERS;sUNDER THREE FINGERS;
    yFOUR FINGERS;sOVER FOUR RAISED KNUCKLES;l;l HEEL;cTOUCH SINGLE;iMULTIPLE;iBETWEEN;
    cGRASP SINGLE;iMULTIPLE;iBETWEEN;cSTRIKE SINGLE;jMULTIPLE;jBETWEEN;cBRUSH SINGLE;iMULTIPLE;
    iBETWEEN;cRUB SINGLE;gMULTIPLE;gBETWEEN;cSURFACE SYMBOLS;kBETWEEN;dQUEEZE LARGE SINGLE;
    kSMALL SINGLE;kLARGE MULTIPLE;kSMALL MULTIPLE;lEQUENTIAL;cFLICK LARGE SINGLE;iSMALL SINGLE;
    iLARGE MULTIPLE;iSMALL MULTIPLE;jEQUENTIAL;cSQUEEZE FLICK ALTERNATING;
    cMOVEMENT-HINGE UP DOWN LARGE;zSMALL;uSEQUENTIAL;rDOWN SEQUENTIAL;
    rUP DOWN ALTERNATING LARGE;LSMALL;rSIDE TO SIDE SCISSORS;lWALLPLANE FINGER CONTACT;
    lFLOORPLANE FINGER CONTACT;lWALLPLANE SINGLE STRAIGHT SMALL;LMEDIUM;LLARGE;QST;CWRIST FLEX;
    vDOUBLE STRAIGHT;CWRIST FLEX;CALTERNATING;N WRIST FLEX;vCROSS;vTRIPLE STRAIGHT MOVEMENT;
    CWRIST FLEX;CALTERNATING;N WRIST FLEX;vBEND SMALL;AMEDIUM;ALARGE;vCORNER SMALL;CMEDIUM;
    CLARGE;CROTATION;wHECK SMALL;BMEDIUM;BLARGE;vBOX SMALL;zMEDIUM;zLARGE;vZIGZAG SMALL;CMEDIUM;
    CLARGE;vPEAKS SMALL;BMEDIUM;BLARGE;cTRAVEL-WALLPLANE ROTATION-WALLPLANE SINGLE;MDOUBLE;
    MALTERNATING;CFLOORPLANE SINGLE;NDOUBLE;NALTERNATING;tSHAKING;tARM SPIRAL SINGLE;EDOUBLE;
    ETRIPLE;cMOVEMENT-DIAGONAL AWAY SMALL;zMEDIUM;zLARGE;EST;uTOWARDS SMALL;CMEDIUM;CLARGE;HST;
    uBETWEEN AWAY SMALL;HMEDIUM;HLARGE;MST;CTOWARDS SMALL;KMEDIUM;KLARGE;PST;
    lFLOORPLANE SINGLE STRAIGHT SMALL;MMEDIUM;MLARGE;RST;DWRIST FLEX;wDOUBLE STRAIGHT;
    DWRIST FLEX;DALTERNATING;O WRIST FLEX;wCROSS;wTRIPLE STRAIGHT MOVEMENT;DWRIST FLEX;
    DALTERNATING MOVEMENT;PWRIST FLEX;wBEND;wCORNER SMALL;DMEDIUM;DLARGE;xHECK;wBOX SMALL;
    AMEDIUM;ALARGE;wZIGZAG SMALL;DMEDIUM;DLARGE;wPEAKS SMALL;CMEDIUM;CLARGE;
    cTRAVEL-FLOORPLANE ROTATION-FLOORPLANE SINGLE;ODOUBLE;OALTERNATING;DWALLPLANE SINGLE;
    NDOUBLE;NALTERNATING;uSHAKING;cMOVEMENT-WALLPLANE CURVE QUARTER SMALL;JMEDIUM;JLARGE;OST;
    BHALF-CIRCLE SMALL;NMEDIUM;NLARGE;SST;BTHREE-QUARTER CIRCLE SMALL;WMEDIUM;vHUMP SMALL;
    AMEDIUM;ALARGE;vLOOP SMALL;AMEDIUM;ALARGE;ASMALL DOUBLE;vWAVE CURVE DOUBLE SMALL;NMEDIUM;
    NLARGE;GTRIPLE SMALL;NMEDIUM;NLARGE;vCURVE THEN STRAIGHT;AD CROSS SMALL;IMEDIUM;
    cROTATION-WALLPLANE SINGLE;vDOUBLE;vALTERNATE;cMOVEMENT-WALLPLANE SHAKING;
    vCURVE HITTING FRONT WALL;vHUMP HITTING FRONT WALL;vLOOP HITTING FRONT WALL;
    vWAVE HITTING FRONT WALL;cROTATION-WALLPLANE SINGLE HITTING FRONT WALL;
    vDOUBLE HITTING FRONT WALL;vALTERNATING HITTING FRONT WALL;
    cMOVEMENT-WALLPLANE CURVE HITTING CHEST;vHUMP HITTING CHEST;vLOOP HITTING CHEST;
    vWAVE HITTING CHEST;cROTATION-WALLPLANE SINGLE HITTING CHEST;vDOUBLE HITTING CHEST;
    vALTERNATING HITTING CHEST;cMOVEMENT-WALLPLANE WAVE DIAGONAL PATH SMALL;OMEDIUM;OLARGE;
    lFLOORPLANE CURVE HITTING CEILING SMALL;SLARGE;wHUMP HITTING CEILING SMALL DOUBLE;
    RLARGE DOUBLE;RSMALL TRIPLE;RLARGE TRIPLE;wLOOP HITTING CEILING SMALL SINGLE;RLARGE SINGLE;
    RSMALL DOUBLE;RLARGE DOUBLE;wWAVE HITTING CEILING SMALL;RLARGE;
    cROTATION-FLOORPLANE SINGLE HITTING CEILING;wDOUBLE HITTING CEILING;
    wALTERNATING HITTING CEILING;cMOVEMENT-FLOORPLANE CURVE HITTING FLOOR SMALL;QLARGE;
    wHUMP HITTING FLOOR SMALL DOUBLE;PLARGE DOUBLE;PTRIPLE SMALL TRIPLE;WLARGE TRIPLE;
    wLOOP HITTING FLOOR SMALL SINGLE;PLARGE SINGLE;PSMALL DOUBLE;PLARGE DOUBLE;
    wWAVE HITTING FLOOR SMALL;PLARGE;cROTATION-FLOORPLANE SINGLE HITTING FLOOR;
    wDOUBLE HITTING FLOOR;wALTERNATING HITTING FLOOR;cMOVEMENT-FLOORPLANE CURVE SMALL;CMEDIUM;
    CLARGE;HST;CCOMBINED;wHUMP SMALL;wLOOP SMALL;wWAVE SNAKE;CMALL;BLARGE;
    cROTATION-FLOORPLANE SINGLE;wDOUBLE;wALTERNATING;cMOVEMENT-FLOORPLANE SHAKING PARALLEL;
    lWALLPLANE ARM CIRCLE SMALL SINGLE;GMEDIUM SINGLE;GSMALL DOUBLE;GMEDIUM DOUBLE;
    lFLOORPLANE ARM CIRCLE HITTING WALL SMALL SINGLE;UMEDIUM SINGLE;ULARGE SINGLE;USMALL DOUBLE;
    UMEDIUM DOUBLE;ULARGE DOUBLE;lWALLPLANE WRIST CIRCLE FRONT SINGLE;ODOUBLE;
    lFLOORPLANE WRIST CIRCLE HITTING WALL SINGLE;WDOUBLE;lWALLPLANE FINGER CIRCLES SINGLE;
    KDOUBLE;lFLOORPLANE FINGER CIRCLES HITTING WALL SINGLE;YDOUBLE;cDYNAMIC ARROWHEAD SMALL;
    uLARGE;kFAST;kSLOW;kTENSE;kRELAXED;kSIMULTANEOUS;w ALTERNATING;kEVERY OTHER TIME;kGRADUAL;
    cHEAD;g RIM;hMOVEMENT-WALLPLANE STRAIGHT;ATILT;qFLOORPLANE STRAIGHT;qWALLPLANE CURVE;
    qFLOORPLANE CURVE;p CIRCLE;cFACE DIRECTION POSITION NOSE FORWARD TILTING;FUP OR DOWN;
    P TILTING;cEYEBROWS STRAIGHT UP;uNEUTRAL;uDOWN;cDREAMY EYEBROWS NEUTRAL DOWN;sDOWN NEUTRAL;
    sUP NEUTRAL;sNEUTRAL UP;cFOREHEAD NEUTRAL;lCONTACT;lWRINKLED;cEYES OPEN;hSQUEEZED;hCLOSED;
    f BLINK SINGLE;mMULTIPLE;fS HALF OPEN;hWIDE OPEN;hHALF CLOSED;hWIDENING MOVEMENT;f WINK;
    fLASHES UP;mDOWN;mFLUTTERING;fGAZE-WALLPLANE STRAIGHT;C DOUBLE;DALTERNATING;
    kFLOORPLANE STRAIGHT;D DOUBLE;EALTERNATING;kWALLPLANE CURVED;kFLOORPLANE CURVED;
    kWALLPLANE CIRCLING;cCHEEKS PUFFED;jNEUTRAL;jSUCKED;cTENSE CHEEKS HIGH;pMIDDLE;pLOW;cEARS;
    cNOSE NEUTRAL;hCONTACT;hWRINKLES;iIGGLES;cAIR BLOWING OUT;gSUCKING IN;gBLOW SMALL ROTATIONS;
    gSUCK SMALL ROTATIONS;cBREATH INHALE;jEXHALE;cMOUTH CLOSED NEUTRAL;pFORWARD;pCONTACT;iSMILE;
    n WRINKLED;oOPEN;iFROWN;n WRINKLED;oOPEN;iOPEN CIRCLE;nFORWARD;nWRINKLED;nOVAL;r WRINKLED;
    sYAWN;nRECTANGLE;w WRINKLED;xYAWN;iKISS;m FORWARD;nWRINKLED;iTENSE;n FORWARD;oSUCKED;
    cLIPS PRESSED TOGETHER;f LOWER OVER UPPER;gUPPER OVER LOWER;cMOUTH CORNERS;iWRINKLES SINGLE;
    rDOUBLE;cTONGUE STICKING OUT FAR;jLICKING LIPS;jTIP BETWEEN LIPS;nTOUCHING INSIDE MOUTH;
    jINSIDE MOUTH RELAXED;jMOVES AGAINST CHEEK;jCENTRE STICKING OUT;qINSIDE MOUTH;dEETH;
    h MOVEMENT;iON TONGUE;r MOVEMENT;lLIPS;p MOVEMENT;iBITE LIPS;cMOVEMENT-WALLPLANE JAW;
    lFLOORPLANE JAW;cNECK;cHAIR;cEXCITEMENT;cSHOULDER HIP SPINE;pPOSITIONS;
    cWALLPLANE SHOULDER HIP MOVE;cFLOORPLANE SHOULDER HIP MOVE;cSHOULDER TILTING FROM WAIST;
    cTORSO-WALLPLANE STRAIGHT STRETCH;sCURVED BEND;iFLOORPLANE TWISTING;
    cUPPER BODY TILTING FROM HIP JOINTS;cLIMB COMBINATION;hLENGTH-1;o2;o3;o4;o5;o6;o7;cFINGER;
    cLOCATION-WALLPLANE SPACE;lFLOORPLANE SPACE;k HEIGHT;lWIDTH;lDEPTH;lHEAD NECK;lTORSO;
    lLIMBS DIGITS;cCOMMA;cFULL STOP;cSEMICOLON;cCOLON;cPARENTHESIS;1DA9B=cFILL MODIFIER-2;q3;q4;
    q5;q6;1DAA1=cROTATION MODIFIER-2;u3;u4;u5;u6;u7;u8;u9;u10;v1;v2;v3;v4;v5;v6;
    1DF00=0LATIN SMALL LETTER FENG DIGRAPH WITH TRILL;jREVERSED SCRIPT G;
    6LETTER SMALL CAPITAL TURNED G;6SMALL LETTER REVERSED K;6LETTER SMALL CAPITAL L WITH BELT;
    6SMALL LETTER LEZH WITH RETROFLEX HOOK;jTURNED Y WITH BELT;jREVERSED ENG;
    jTURNED R WITH LONG LEG AND RETROFLEX HOOK;k WITH HOOK AND RETROFLEX HOOK;
    6LETTER RETROFLEX CLICK WITH RETROFLEX HOOK;6SMALL LETTER ESH WITH DOUBLE BAR;C AND CURL;
    jTURNED T WITH CURL;6LETTER INVERTED GLOTTAL STOP WITH CURL;dSTRETCHED C WITH CURL;
    eMALL CAPITAL TURNED K;6SMALL LETTER L WITH FISHHOOK;jDEZH DIGRAPH WITH PALATAL HOOK;
    jL WITH BELT AND PALATAL HOOK;jENG WITH PALATAL HOOK;jTURNED R WITH PALATAL HOOK;
    jR WITH FISHHOOK AND PALATAL HOOK;jTESH DIGRAPH WITH PALATAL HOOK;jEZH WITH PALATAL HOOK;
    jDEZH DIGRAPH WITH RETROFLEX HOOK;jI WITH STROKE AND RETROFLEX HOOK;jO WITH RETROFLEX HOOK;
    jTESH DIGRAPH WITH RETROFLEX HOOK;jC WITH RETROFLEX HOOK;jS WITH CURL;
    1E000=0COMBINING GLAGOLITIC LETTER AZU;sBUKY;sVEDE;sGLAGOLI;sDOBRO;sYESTU;sZHIVETE;
    1E008=tEMLJA;sIZHE;tNITIAL IZHE;t;sDJERVI;sKAKO;sLJUDIJE;sMYSLITE;sNASHI;sONU;sPOKOJI;
    sRITSI;sSLOVO;sTVRIDO;sUKU;sFRITU;sHERU;1E01B=sSHTA;sTSI;sCHRIVI;sSHA;sYERU;vI;tATI;
    1E023=tU;sSMALL YUS;1E026=sYO;sIOTATED SMALL YUS;sBIG YUS;sIOTATED BIG YUS;sFITA;
    1E100=0NYIAKENG PUACHUE HMONG LETTER MA;uTSA;uNTA;uTA;uHA;uNA;uXA;uNKA;uCA;uLA;uSA;uZA;uNCA;
    vTSA;uKA;uDA;uNYA;vRA;uVA;uNTXA;uTXA;uFA;uRA;uQA;uYA;uNQA;uPA;uXYA;uNPA;uDLA;uNPLA;uHAH;
    uMLA;uPLA;uGA;uRRA;uA;vA;uI;uU;uO;vO;uE;vE;uW;1E130=nTONE-B;sM;sJ;sV;sS;sG;sD;
    nSIGN FOR PERSON;wTHING;wLOCATION;wANIMAL;wINVERTEBRATE;sXW XW;oYLLABLE LENGTHENER;
    1E140=nDIGIT ZERO;tONE;tTWO;uHREE;tFOUR;uIVE;tSIX;uEVEN;tEIGHT;tNINE;1E14E=nLOGOGRAM NYAJ;
    nCIRCLED CA;1E290=0TOTO LETTER PA;cBA;cTA;cDA;cKA;cGA;cMA;cNA;dGA;cSA;cCHA;cYA;cWA;cJA;cHA;
    cRA;cLA;cI;cBREATHY I;cIU;cBREATHY IU;cU;cE;cBREATHY E;cEO;cBREATHY EO;cO;cAE;cBREATHY AE;
    cA;5SIGN RISING TONE;1E2C0=0WANCHO LETTER AA;f;eBA;eCA;eDA;eGA;eYA;ePHA;eLA;eNA;ePA;eTA;fHA;
    eFA;eSA;fHA;eJA;eZA;eWA;eVA;eKA;eO;eAU;eRA;eMA;eKHA;eHA;eE;eI;eNGA;eU;eLLHA;eTSA;fRA;eONG;
    eAANG;fNG;eING;eON;eEN;eAAN;eNYA;eUEN;eYIH;7TONE TUP;fNI;cKOI;fNI;7DIGIT ZERO;dONE;dTWO;
    eHREE;dFOUR;eIVE;dSIX;eEVEN;dEIGHT;dNINE;1E2FF=7NGUN SIGN;1E7E0=0ETHIOPIC SYLLABLE HHYA;lU;
    lI;lAA;lEE;m;lO;1E7E8=iGURAGE HHWA;iHHWI;lEE;m;1E7ED=iGURAGE MWI;rEE;1E7F0=pQWI;rEE;s;pBWI;
    rEE;pKWI;rEE;s;pGWI;rEE;s;pFWI;rEE;pPWI;rEE;1E800=0MENDE KIKAKUI SYLLABLE M001 KI;q2 KA;
    q3 KU;p65 KEE;p95 KE;p76 KOO;p48 KO;o179 KUA;o004 WI;q5 WA;q6 WU;o126 WEE;p18 WE;q4 WOO;
    o045 WO;o194 WUI;p43 WEI;o061 WVI;p49 WVA;o139 WVE;o007 MIN;q8 MAN;q9 MUN;p59 MEN;p94 MON;
    o154 MUAN;p89 MUEN;o010 BI;q1 BA;q2 BU;o150 BEE;o097 BE;o103 BOO;p38 BO;o013 I;q4 A;q5 U;
    o163 EE;p00 E;p65 OO;p47 O;p37 EI;q1 IN;q5 IN;p95 AN;p78 EN;o019 SI;p20 SA;q1 SU;o162 SEE;
    p16 SE;p36 SOO;o079 SO;o196 SIA;o025 LI;q6 LA;q7 LU;p84 LEE;p73 LE;p54 LOO;o153 LO;
    p10 LONG LE;o016 DI;q7 DA;q8 DU;p89 DEE;o180 DOO;q1 DO;o022 TI;q3 TA;q4 TU;p91 TEE;p55 TE;
    o104 TOO;o069 TO;p28 JI;q9 JA;p30 JU;o157 JEE;p13 JE;p60 JOO;o063 JO;o175 LONG JO;o031 YI;
    q2 YA;q3 YU;o109 YEE;o080 YE;o141 YOO;p21 YO;o034 FI;q5 FA;q6 FU;p78 FEE;q5 FE;o133 FOO;
    o088 FO;o197 FUA;p01 FAN;o037 NIN;q8 NAN;q9 NUN;o117 NEN;p69 NON;p76 HI;o041 HA;o186 HU;
    o040 HEE;p96 HE;p42 HOO;o140 HO;o083 HEEI;o128 HOOU;o053 HIN;o130 HAN;o087 HUN;p52 HEN;
    o193 HON;o046 HUAN;p90 NGGI;p43 NGGA;p82 NGGU;o115 NGGEE;p46 NGGE;p56 NGGOO;p20 NGGO;
    p59 NGGAA;p27 NGGUA;o086 LONG NGGE;o106 LONG NGGOO;p83 LONG NGGO;p55 GI;p11 GA;p68 GU;
    p90 GEE;p66 GUEI;q7 GUAN;p84 NGEN;o057 NGON;o177 NGUAN;o068 PI;p99 PA;p50 PU;p81 PEE;p51 PE;
    o102 POO;o066 PO;o145 MBI;o062 MBA;o122 MBU;o047 MBEE;o188 MBEE;o072 MBE;o172 MBOO;q4 MBO;
    p87 MBUU;p61 LONG MBE;p05 LONG MBOO;p42 LONG MBO;p32 KPI;o092 KPA;p74 KPU;p44 KPEE;o108 KPE;
    p12 KPOO;p58 KPO;p24 GBI;o056 GBA;o148 GBU;o093 GBEE;o107 GBE;o071 GBOO;q0 GBO;o171 RA;
    p23 NDI;q9 NDA;q5 NDU;p91 NDEE;p19 NDE;o067 NDOO;q4 NDO;o152 NJA;p92 NJU;p49 NJEE;p34 NJOO;
    p82 VI;q5 VA;p51 VU;p73 VEE;o085 VE;o144 VOO;o077 VO;o164 NYIN;o058 NYAN;o170 NYUN;
    o098 NYEN;p60 NYON;1E8C7=eDIGIT ONE;kTWO;lHREE;kFOUR;lIVE;kSIX;lEVEN;kEIGHT;kNINE;
    eCOMBINING NUMBER TEENS;xNS;vHUNDREDS;vTHOUSANDS;wEN THOUSANDS;vHUNDRED THOUSANDS;vMILLIONS;
    1E900=0ADLAM CAPITAL LETTER ALIF;lDAALI;lLAAM;lMIIM;lBA;lSINNYIIYHE;lPE;lBHE;lRA;lE;lFA;lI;
    lO;lDHA;lYHE;lWAW;lNUN;lKAF;lYA;lU;lJIIM;lCHI;lHA;lQAAF;lGA;lNYA;lTU;lNHA;lVA;lKHA;lGBE;
    lZAL;lKPO;lSHA;6SMALL LETTER ALIF;jDAALI;jLAAM;jMIIM;jBA;jSINNYIIYHE;jPE;jBHE;jRA;jE;jFA;jI;
    jO;jDHA;jYHE;jWAW;jNUN;jKAF;jYA;jU;jJIIM;jCHI;jHA;jQAAF;jGA;jNYA;jTU;jNHA;jVA;jKHA;jGBE;
    jZAL;jKPO;jSHA;6ALIF LENGTHENER;6VOWEL LENGTHENER;6GEMINATION MARK;6HAMZA;
    6CONSONANT MODIFIER;6GEMINATE CONSONANT MODIFIER;6NUKTA;7ASALIZATION MARK;1E950=6DIGIT ZERO;
    cONE;cTWO;dHREE;cFOUR;dIVE;cSIX;dEVEN;cEIGHT;cNINE;1E95E=6INITIAL EXCLAMATION MARK;
    eQUESTION MARK;1EC71=0INDIC SIYAQ NUMBER ONE;jTWO;kHREE;jFOUR;kIVE;jSIX;kEVEN;jEIGHT;jNINE;
    jTEN;kWENTY;kHIRTY;jFORTY;kIFTY;jSIXTY;kEVENTY;jEIGHTY;jNINETY;jONE HUNDRED;jTWO HUNDRED;
    kHREE HUNDRED;jFOUR HUNDRED;kIVE HUNDRED;jSIX HUNDRED;kEVEN HUNDRED;jEIGHT HUNDRED;
    jNINE HUNDRED;jONE THOUSAND;jTWO THOUSAND;kHREE THOUSAND;jFOUR THOUSAND;kIVE THOUSAND;
    jSIX THOUSAND;kEVEN THOUSAND;jEIGHT THOUSAND;jNINE THOUSAND;jTEN THOUSAND;kWENTY THOUSAND;
    kHIRTY THOUSAND;jFORTY THOUSAND;kIFTY THOUSAND;jSIXTY THOUSAND;kEVENTY THOUSAND;
    jEIGHTY THOUSAND;jNINETY THOUSAND;jLAKH;nAN;cLAKH MARK;cNUMBER KAROR;oAN;jPREFIXED ONE;sTWO;
    tHREE;sFOUR;tIVE;sSIX;tEVEN;sEIGHT;sNINE;cPLACEHOLDER;cFRACTION ONE QUARTER;pHALF;
    lTHREE QUARTERS;cRUPEE MARK;cNUMBER ALTERNATE ONE;tTWO;uEN THOUSAND;cALTERNATE LAKH MARK;
    1ED01=0OTTOMAN SIYAQ NUMBER ONE;lTWO;mHREE;lFOUR;mIVE;lSIX;mEVEN;lEIGHT;lNINE;lTEN;mWENTY;
    mHIRTY;lFORTY;mIFTY;lSIXTY;mEVENTY;lEIGHTY;lNINETY;lONE HUNDRED;lTWO HUNDRED;mHREE HUNDRED;
    lFOUR HUNDRED;mIVE HUNDRED;lSIX HUNDRED;mEVEN HUNDRED;lEIGHT HUNDRED;lNINE HUNDRED;
    lONE THOUSAND;lTWO THOUSAND;mHREE THOUSAND;lFOUR THOUSAND;mIVE THOUSAND;lSIX THOUSAND;
    mEVEN THOUSAND;lEIGHT THOUSAND;lNINE THOUSAND;lTEN THOUSAND;mWENTY THOUSAND;mHIRTY THOUSAND;
    lFORTY THOUSAND;mIFTY THOUSAND;lSIXTY THOUSAND;mEVENTY THOUSAND;lEIGHTY THOUSAND;
    lNINETY THOUSAND;eMARRATAN;eALTERNATE NUMBER TWO;wHREE;vFOUR;wIVE;vSIX;wEVEN;vEIGHT;vNINE;
    vTEN;vFOUR HUNDRED;vSIX HUNDRED;vTWO THOUSAND;wEN THOUSAND;eFRACTION ONE HALF;rSIXTH;
    1EE00=0ARABIC MATHEMATICAL ALEF;kBEH;kJEEM;kDAL;1EE05=kWAW;kZAIN;kHAH;kTAH;kYEH;kKAF;kLAM;
    kMEEM;kNOON;kSEEN;kAIN;kFEH;kSAD;kQAF;kREH;kSHEEN;kTEH;lHEH;kKHAH;kTHAL;kDAD;kZAH;kGHAIN;
    kDOTLESS BEH;sNOON;sFEH;sQAF;1EE21=kINITIAL BEH;sJEEM;1EE24=sHEH;1EE27=tAH;1EE29=sYEH;sKAF;
    sLAM;sMEEM;sNOON;sSEEN;sAIN;sFEH;sSAD;sQAF;1EE34=sSHEEN;sTEH;tHEH;sKHAH;1EE39=sDAD;
    1EE3B=sGHAIN;1EE42=kTAILED JEEM;1EE47=rHAH;1EE49=rYEH;1EE4B=rLAM;1EE4D=rNOON;rSEEN;rAIN;
    1EE51=rSAD;rQAF;1EE54=rSHEEN;1EE57=rKHAH;1EE59=rDAD;1EE5B=rGHAIN;1EE5D=rDOTLESS NOON;
    1EE5F=zQAF;1EE61=kSTRETCHED BEH;uJEEM;1EE64=uHEH;1EE67=vAH;uTAH;uYEH;uKAF;1EE6C=uMEEM;uNOON;
    uSEEN;uAIN;uFEH;uSAD;uQAF;1EE74=uSHEEN;uTEH;vHEH;uKHAH;1EE79=uDAD;uZAH;uGHAIN;uDOTLESS BEH;
    1EE7E=CFEH;1EE80=kLOOPED ALEF;rBEH;rJEEM;rDAL;rHEH;rWAW;rZAIN;rHAH;rTAH;rYEH;1EE8B=rLAM;
    rMEEM;rNOON;rSEEN;rAIN;rFEH;rSAD;rQAF;rREH;rSHEEN;rTEH;sHEH;rKHAH;rTHAL;rDAD;rZAH;rGHAIN;
    1EEA1=kDOUBLE-STRUCK BEH;yJEEM;yDAL;1EEA5=yWAW;yZAIN;yHAH;yTAH;yYEH;1EEAB=yLAM;yMEEM;yNOON;
    ySEEN;yAIN;yFEH;ySAD;yQAF;yREH;ySHEEN;yTEH;zHEH;yKHAH;yTHAL;yDAD;yZAH;yGHAIN;
    1EEF0=kOPERATOR MEEM WITH HAH WITH TATWEEL;tHAH WITH DAL;1F000=0MAHJONG TILE EAST WIND;
    dSOUTH WIND;dWEST WIND;dNORTH WIND;dRED DRAGON;dGREEN DRAGON;dWHITE DRAGON;
    dONE OF CHARACTERS;dTWO OF CHARACTERS;eHREE OF CHARACTERS;dFOUR OF CHARACTERS;
    eIVE OF CHARACTERS;dSIX OF CHARACTERS;eEVEN OF CHARACTERS;dEIGHT OF CHARACTERS;
    dNINE OF CHARACTERS;dONE OF BAMBOOS;dTWO OF BAMBOOS;eHREE OF BAMBOOS;dFOUR OF BAMBOOS;
    eIVE OF BAMBOOS;dSIX OF BAMBOOS;eEVEN OF BAMBOOS;dEIGHT OF BAMBOOS;dNINE OF BAMBOOS;
    dONE OF CIRCLES;dTWO OF CIRCLES;eHREE OF CIRCLES;dFOUR OF CIRCLES;eIVE OF CIRCLES;
    dSIX OF CIRCLES;eEVEN OF CIRCLES;dEIGHT OF CIRCLES;dNINE OF CIRCLES;dPLUM;dORCHID;dBAMBOO;
    dCHRYSANTHEMUM;dSPRING;eUMMER;dAUTUMN;dWINTER;dJOKER;dBACK;
    1F030=0DOMINO TILE HORIZONTAL BACK;m-00-00;r1;r2;r3;r4;r5;r6;o1-00;r1;r2;r3;r4;r5;r6;o2-00;
    r1;r2;r3;r4;r5;r6;o3-00;r1;r2;r3;r4;r5;r6;o4-00;r1;r2;r3;r4;r5;r6;o5-00;r1;r2;r3;r4;r5;r6;
    o6-00;r1;r2;r3;r4;r5;r6;cVERTICAL BACK;k-00-00;p1;p2;p3;p4;p5;p6;m1-00;p1;p2;p3;p4;p5;p6;
    m2-00;p1;p2;p3;p4;p5;p6;m3-00;p1;p2;p3;p4;p5;p6;m4-00;p1;p2;p3;p4;p5;p6;m5-00;p1;p2;p3;p4;
    p5;p6;m6-00;p1;p2;p3;p4;p5;p6;1F0A0=0PLAYING CARD BACK;dACE OF SPADES;dTWO OF SPADES;
    eHREE OF SPADES;dFOUR OF SPADES;eIVE OF SPADES;dSIX OF SPADES;eEVEN OF SPADES;
    dEIGHT OF SPADES;dNINE OF SPADES;dTEN OF SPADES;dJACK OF SPADES;dKNIGHT OF SPADES;
    dQUEEN OF SPADES;dKING OF SPADES;1F0B1=dACE OF HEARTS;dTWO OF HEARTS;eHREE OF HEARTS;
    dFOUR OF HEARTS;eIVE OF HEARTS;dSIX OF HEARTS;eEVEN OF HEARTS;dEIGHT OF HEARTS;
    dNINE OF HEARTS;dTEN OF HEARTS;dJACK OF HEARTS;dKNIGHT OF HEARTS;dQUEEN OF HEARTS;
    dKING OF HEARTS;dRED JOKER;1F0C1=dACE OF DIAMONDS;dTWO OF DIAMONDS;eHREE OF DIAMONDS;
    dFOUR OF DIAMONDS;eIVE OF DIAMONDS;dSIX OF DIAMONDS;eEVEN OF DIAMONDS;dEIGHT OF DIAMONDS;
    dNINE OF DIAMONDS;dTEN OF DIAMONDS;dJACK OF DIAMONDS;dKNIGHT OF DIAMONDS;dQUEEN OF DIAMONDS;
    dKING OF DIAMONDS;dBLACK JOKER;1F0D1=dACE OF CLUBS;dTWO OF CLUBS;eHREE OF CLUBS;
    dFOUR OF CLUBS;eIVE OF CLUBS;dSIX OF CLUBS;eEVEN OF CLUBS;dEIGHT OF CLUBS;dNINE OF CLUBS;
    dTEN OF CLUBS;dJACK OF CLUBS;dKNIGHT OF CLUBS;dQUEEN OF CLUBS;dKING OF CLUBS;dWHITE JOKER;
    dFOOL;dTRUMP-1;j2;j3;j4;j5;j6;j7;j8;j9;j10;k1;k2;k3;k4;k5;k6;k7;k8;k9;j20;k1;
    1F100=0DIGIT ZERO FULL STOP;bCOMMA;6ONE COMMA;6TWO COMMA;7HREE COMMA;6FOUR COMMA;7IVE COMMA;
    6SIX COMMA;7EVEN COMMA;6EIGHT COMMA;6NINE COMMA;2NGBAT CIRCLED SANS-SERIF DIGIT ZERO;
    8NEGATIVE CIRCLED SANS-SERIF DIGIT ZERO;0CIRCLED ZERO WITH SLASH;8ANTICLOCKWISE ARROW;
    8DOLLAR SIGN WITH OVERLAID BACKSLASH;0PARENTHESIZED LATIN CAPITAL LETTER A;zB;zC;zD;zE;zF;
    zG;zH;zI;zJ;zK;zL;zM;zN;zO;zP;zQ;zR;zS;zT;zU;zV;zW;zX;zY;zZ;
    0TORTOISE SHELL BRACKETED LATIN CAPITAL LETTER S;0CIRCLED ITALIC LATIN CAPITAL LETTER C;AR;
    8CD;8WZ;1OPYLEFT SYMBOL;0SQUARED LATIN CAPITAL LETTER A;tB;tC;tD;tE;tF;tG;tH;tI;tJ;tK;tL;tM;
    tN;tO;tP;tQ;tR;tS;tT;tU;tV;tW;tX;tY;tZ;8HV;8MV;8SD;9S;8PPV;8WC;
    0NEGATIVE CIRCLED LATIN CAPITAL LETTER A;CB;CC;CD;CE;CF;CG;CH;CI;CJ;CK;CL;CM;CN;CO;CP;CQ;CR;
    CS;CT;CU;CV;CW;CX;CY;CZ;0RAISED MC SIGN;8D SIGN;8R SIGN;0CIRCLED CC;
    9 WITH OVERLAID BACKSLASH;8HUMAN FIGURE;0NEGATIVE SQUARED LATIN CAPITAL LETTER A;CB;CC;CD;
    CE;CF;CG;CH;CI;CJ;CK;CL;CM;CN;CO;CP;CQ;CR;CS;CT;CU;CV;CW;CX;CY;CZ;
    0CROSSED NEGATIVE SQUARED LATIN CAPITAL LETTER P;0NEGATIVE SQUARED IC;hPA;hSA;hAB;hWC;
    0SQUARE DJ;6D CL;9OOL;8FREE;8ID;8NEW;9G;8OK;8SOS;8UP WITH EXCLAMATION MARK;8VS;8THREE D;
    8SECOND SCREEN;8TWO K;8FOUR K;8EIGHT K;8FIVE POINT ONE;8SEVEN POINT ONE;
    8TWENTY-TWO POINT TWO;8SIXTY P;8ONE HUNDRED TWENTY P;8LATIN SMALL LETTER D;8HC;9DR;9I-RES;
    8LOSSLESS;8SHV;8UHD;8VOD;0MASK WORK SYMBOL;1F1E6=0REGIONAL INDICATOR SYMBOL LETTER A;xB;xC;
    xD;xE;xF;xG;xH;xI;xJ;xK;xL;xM;xN;xO;xP;xQ;xR;xS;xT;xU;xV;xW;xX;xY;xZ;0SQUARE HIRAGANA HOKA;
    6D KATAKANA KOKO;hSA;1F210=8CJK UNIFIED IDEOGRAPH-624B;u5B57;v3CC;8KATAKANA DE;
    8CJK UNIFIED IDEOGRAPH-4E8C;u591A;u89E3;u5929;u4EA4;u6620;u7121;u6599;u524D;vF8C;v18D;u65B0;
    u521D;u7D42;v51F;u8CA9;u58F0;v439;u6F14;v295;v355;u4E00;x9;u904A;u5DE6;u4E2D;u53F3;u6307;
    u8D70;u6253;u7981;vA7A;u5408;u6E80;v709;x8;u7533;u5272;v5B6;u914D;
    1F240=0TORTOISE SHELL BRACKETED CJK UNIFIED IDEOGRAPH-672C;L4E09;N8C;L5B89;L70B9;L6253;
    L76D7;L52DD;L6557;1F250=0CIRCLED IDEOGRAPH ADVANTAGE;jCCEPT;1F260=0ROUNDED SYMBOL FOR FU;
    jLU;jSHOU;jXI;jSHUANGXI;jCAI;1F300=0CYCLONE;0FOGGY;0CLOSED UMBRELLA;0NIGHT WITH STARS;
    0SUNRISE OVER MOUNTAINS;7;0CITYSCAPE AT DUSK;0SUNSET OVER BUILDINGS;0RAINBOW;
    0BRIDGE AT NIGHT;0WATER WAVE;0VOLCANO;0MILKY WAY;0EARTH GLOBE EUROPE-AFRICA;cAMERICAS;
    dSIA-AUSTRALIA;0GLOBE WITH MERIDIANS;0NEW MOON SYMBOL;0WAXING CRESCENT MOON SYMBOL;
    0FIRST QUARTER MOON SYMBOL;0WAXING GIBBOUS MOON SYMBOL;0FULL MOON SYMBOL;
    0WANING GIBBOUS MOON SYMBOL;0LAST QUARTER MOON SYMBOL;0WANING CRESCENT MOON SYMBOL;
    0CRESCENT MOON;0NEW MOON WITH FACE;0FIRST QUARTER MOON WITH FACE;
    0LAST QUARTER MOON WITH FACE;0FULL MOON WITH FACE;0SUN WITH FACE;0GLOWING STAR;
    0SHOOTING STAR;0THERMOMETER;0BLACK DROPLET;0WHITE SUN;9 WITH SMALL CLOUD;aBEHIND CLOUD;
    m WITH RAIN;0CLOUD WITH RAIN;bSNOW;bLIGHTNING;bTORNADO;0FOG;0WIND BLOWING FACE;0HOT DOG;
    0TACO;0BURRITO;0CHESTNUT;0SEEDLING;0EVERGREEN TREE;0DECIDUOUS TREE;0PALM TREE;0CACTUS;
    0HOT PEPPER;0TULIP;0CHERRY BLOSSOM;0ROSE;0HIBISCUS;0SUNFLOWER;0BLOSSOM;0EAR OF MAIZE;7RICE;
    0HERB;0FOUR LEAF CLOVER;0MAPLE LEAF;0FALLEN LEAF;0LEAF FLUTTERING IN WIND;0MUSHROOM;0TOMATO;
    0AUBERGINE;0GRAPES;0MELON;0WATERMELON;0TANGERINE;0LEMON;0BANANA;0PINEAPPLE;0RED APPLE;
    0GREEN APPLE;0PEAR;3CH;0CHERRIES;0STRAWBERRY;0HAMBURGER;0SLICE OF PIZZA;0MEAT ON BONE;
    0POULTRY LEG;0RICE CRACKER;5BALL;0COOKED RICE;1URRY AND RICE;0STEAMING BOWL;1PAGHETTI;
    0BREAD;0FRENCH FRIES;0ROASTED SWEET POTATO;0DANGO;0ODEN;0SUSHI;0FRIED SHRIMP;
    1ISH CAKE WITH SWIRL DESIGN;0SOFT ICE CREAM;1HAVED ICE;0ICE CREAM;0DOUGHNUT;0COOKIE;
    1HOCOLATE BAR;1ANDY;0LOLLIPOP;0CUSTARD;0HONEY POT;0SHORTCAKE;0BENTO BOX;0POT OF FOOD;
    0COOKING;0FORK AND KNIFE;0TEACUP WITHOUT HANDLE;0SAKE BOTTLE AND CUP;0WINE GLASS;
    0COCKTAIL GLASS;0TROPICAL DRINK;0BEER MUG;0CLINKING BEER MUGS;0BABY BOTTLE;
    0FORK AND KNIFE WITH PLATE;0BOTTLE WITH POPPING CORK;0POPCORN;0RIBBON;0WRAPPED PRESENT;
    0BIRTHDAY CAKE;0JACK-O-LANTERN;0CHRISTMAS TREE;0FATHER CHRISTMAS;1IREWORKS;8 SPARKLER;
    0BALLOON;0PARTY POPPER;0CONFETTI BALL;0TANABATA TREE;0CROSSED FLAGS;0PINE DECORATION;
    0JAPANESE DOLLS;0CARP STREAMER;0WIND CHIME;0MOON VIEWING CEREMONY;0SCHOOL SATCHEL;
    0GRADUATION CAP;0HEART WITH TIP ON THE LEFT;0BOUQUET OF FLOWERS;0MILITARY MEDAL;
    0REMINDER RIBBON;0MUSICAL KEYBOARD WITH JACKS;0STUDIO MICROPHONE;0LEVEL SLIDER;
    0CONTROL KNOBS;0BEAMED ASCENDING MUSICAL NOTES;7DESCENDING MUSICAL NOTES;0FILM FRAMES;
    0ADMISSION TICKETS;0CAROUSEL HORSE;0FERRIS WHEEL;0ROLLER COASTER;0FISHING POLE AND FISH;
    0MICROPHONE;1OVIE CAMERA;0CINEMA;0HEADPHONE;0ARTIST PALETTE;0TOP HAT;0CIRCUS TENT;0TICKET;
    0CLAPPER BOARD;0PERFORMING ARTS;0VIDEO GAME;0DIRECT HIT;0SLOT MACHINE;0BILLIARDS;0GAME DIE;
    0BOWLING;0FLOWER PLAYING CARDS;0MUSICAL NOTE;2LTIPLE MUSICAL NOTES;0SAXOPHONE;0GUITAR;
    0MUSICAL KEYBOARD;0TRUMPET;0VIOLIN;0MUSICAL SCORE;0RUNNING SHIRT WITH SASH;
    0TENNIS RACQUET AND BALL;0SKI AND SKI BOOT;0BASKETBALL AND HOOP;0CHEQUERED FLAG;
    0SNOWBOARDER;0RUNNER;0SURFER;1PORTS MEDAL;0TROPHY;0HORSE RACING;0AMERICAN FOOTBALL;
    0RUGBY FOOTBALL;0SWIMMER;0WEIGHT LIFTER;0GOLFER;0RACING MOTORCYCLE;7CAR;
    0CRICKET BAT AND BALL;0VOLLEYBALL;0FIELD HOCKEY STICK AND BALL;0ICE HOCKEY STICK AND PUCK;
    0TABLE TENNIS PADDLE AND BALL;0SNOW CAPPED MOUNTAIN;0CAMPING;0BEACH WITH UMBRELLA;
    1UILDING CONSTRUCTION;0HOUSE BUILDINGS;0CITYSCAPE;0DERELICT HOUSE BUILDING;
    0CLASSICAL BUILDING;0DESERT;6 ISLAND;0NATIONAL PARK;0STADIUM;0HOUSE BUILDING;6WITH GARDEN;
    0OFFICE BUILDING;0JAPANESE POST OFFICE;0EUROPEAN POST OFFICE;0HOSPITAL;0BANK;
    0AUTOMATED TELLER MACHINE;0HOTEL;0LOVE HOTEL;0CONVENIENCE STORE;0SCHOOL;0DEPARTMENT STORE;
    0FACTORY;0IZAKAYA LANTERN;0JAPANESE CASTLE;0EUROPEAN CASTLE;0WHITE PENNANT;0BLACK PENNANT;
    0WAVING WHITE FLAG;7BLACK FLAG;0ROSETTE;0BLACK ROSETTE;0LABEL;
    0BADMINTON RACQUET AND SHUTTLECOCK;1OW AND ARROW;0AMPHORA;
    0EMOJI MODIFIER FITZPATRICK TYPE-1-2;w3;w4;w5;w6;0RAT;0MOUSE;0OX;0WATER BUFFALO;0COW;0TIGER;
    0LEOPARD;0RABBIT;0CAT;0DRAGON;0CROCODILE;0WHALE;0SNAIL;3KE;0HORSE;0RAM;0GOAT;0SHEEP;0MONKEY;
    0ROOSTER;0CHICKEN;0DOG;0PIG;0BOAR;0ELEPHANT;0OCTOPUS;0SPIRAL SHELL;0BUG;0ANT;0HONEYBEE;
    0LADY BEETLE;0FISH;0TROPICAL FISH;0BLOWFISH;0TURTLE;0HATCHING CHICK;0BABY CHICK;
    0FRONT-FACING BABY CHICK;0BIRD;0PENGUIN;0KOALA;0POODLE;0DROMEDARY CAMEL;0BACTRIAN CAMEL;
    0DOLPHIN;0MOUSE FACE;0COW FACE;0TIGER FACE;0RABBIT FACE;0CAT FACE;0DRAGON FACE;
    0SPOUTING WHALE;0HORSE FACE;0MONKEY FACE;0DOG FACE;0PIG FACE;0FROG FACE;0HAMSTER FACE;
    0WOLF FACE;0BEAR FACE;0PANDA FACE;1IG NOSE;1AW PRINTS;0CHIPMUNK;0EYES;3;1AR;0NOSE;0MOUTH;
    0TONGUE;0WHITE UP POINTING BACKHAND INDEX;6DOWN POINTING BACKHAND INDEX;
    6LEFT POINTING BACKHAND INDEX;6RIGHT POINTING BACKHAND INDEX;0FISTED HAND SIGN;
    0WAVING HAND SIGN;0OK HAND SIGN;0THUMBS UP SIGN;7DOWN SIGN;0CLAPPING HANDS SIGN;
    0OPEN HANDS SIGN;0CROWN;0WOMANS HAT;0EYEGLASSES;0NECKTIE;0T-SHIRT;0JEANS;0DRESS;0KIMONO;
    0BIKINI;0WOMANS CLOTHES;0PURSE;0HANDBAG;0POUCH;0MANS SHOE;0ATHLETIC SHOE;0HIGH-HEELED SHOE;
    0WOMANS SANDAL;7BOOTS;0FOOTPRINTS;0BUST IN SILHOUETTE;4S IN SILHOUETTE;1OY;0GIRL;0MAN;
    0WOMAN;0FAMILY;0MAN AND WOMAN HOLDING HANDS;0TWO MEN HOLDING HANDS;4WOMEN HOLDING HANDS;
    0POLICE OFFICER;0WOMAN WITH BUNNY EARS;0BRIDE WITH VEIL;0PERSON WITH BLOND HAIR;
    0MAN WITH GUA PI MAO;9TURBAN;0OLDER MAN;6WOMAN;0BABY;0CONSTRUCTION WORKER;0PRINCESS;
    0JAPANESE OGRE;9GOBLIN;0GHOST;0BABY ANGEL;0EXTRATERRESTRIAL ALIEN;0ALIEN MONSTER;0IMP;
    0SKULL;0INFORMATION DESK PERSON;0GUARDSMAN;0DANCER;0LIPSTICK;0NAIL POLISH;0FACE MASSAGE;
    0HAIRCUT;0BARBER POLE;0SYRINGE;0PILL;0KISS MARK;0LOVE LETTER;0RING;0GEM STONE;0KISS;
    0BOUQUET;0COUPLE WITH HEART;0WEDDING;0BEATING HEART;1ROKEN HEART;0TWO HEARTS;
    0SPARKLING HEART;0GROWING HEART;0HEART WITH ARROW;0BLUE HEART;0GREEN HEART;0YELLOW HEART;
    0PURPLE HEART;0HEART WITH RIBBON;0REVOLVING HEARTS;0HEART DECORATION;
    0DIAMOND SHAPE WITH A DOT INSIDE;0ELECTRIC LIGHT BULB;0ANGER SYMBOL;0BOMB;0SLEEPING SYMBOL;
    0COLLISION SYMBOL;0SPLASHING SWEAT SYMBOL;0DROPLET;1ASH SYMBOL;0PILE OF POO;0FLEXED BICEPS;
    0DIZZY SYMBOL;0SPEECH BALLOON;0THOUGHT BALLOON;0WHITE FLOWER;0HUNDRED POINTS SYMBOL;
    0MONEY BAG;0CURRENCY EXCHANGE;0HEAVY DOLLAR SIGN;0CREDIT CARD;0BANKNOTE WITH YEN SIGN;
    eDOLLAR SIGN;eEURO SIGN;ePOUND SIGN;0MONEY WITH WINGS;
    0CHART WITH UPWARDS TREND AND YEN SIGN;0SEAT;0PERSONAL COMPUTER;0BRIEFCASE;0MINIDISC;
    0FLOPPY DISK;0OPTICAL DISC;0DVD;0FILE FOLDER;0OPEN FILE FOLDER;0PAGE WITH CURL;5FACING UP;
    0CALENDAR;0TEAR-OFF CALENDAR;0CARD INDEX;1HART WITH UPWARDS TREND;bDOWNWARDS TREND;
    0BAR CHART;0CLIPBOARD;0PUSHPIN;0ROUND PUSHPIN;0PAPERCLIP;0STRAIGHT RULER;0TRIANGULAR RULER;
    0BOOKMARK TABS;0LEDGER;0NOTEBOOK;8 WITH DECORATIVE COVER;0CLOSED BOOK;0OPEN BOOK;
    0GREEN BOOK;0BLUE BOOK;0ORANGE BOOK;0BOOKS;0NAME BADGE;0SCROLL;0MEMO;0TELEPHONE RECEIVER;
    0PAGER;0FAX MACHINE;0SATELLITE ANTENNA;0PUBLIC ADDRESS LOUDSPEAKER;0CHEERING MEGAPHONE;
    0OUTBOX TRAY;0INBOX TRAY;0PACKAGE;0E-MAIL SYMBOL;0INCOMING ENVELOPE;
    0ENVELOPE WITH DOWNWARDS ARROW ABOVE;0CLOSED MAILBOX WITH LOWERED FLAG;kRAISED FLAG;
    0OPEN MAILBOX WITH RAISED FLAG;iLOWERED FLAG;0POSTBOX;4AL HORN;0NEWSPAPER;0MOBILE PHONE;
    c WITH RIGHTWARDS ARROW AT LEFT;0VIBRATION MODE;0MOBILE PHONE OFF;0NO MOBILE PHONES;
    0ANTENNA WITH BARS;0CAMERA;6 WITH FLASH;0VIDEO CAMERA;0TELEVISION;0RADIO;0VIDEOCASSETTE;
    0FILM PROJECTOR;0PORTABLE STEREO;1RAYER BEADS;0TWISTED RIGHTWARDS ARROWS;
    0CLOCKWISE RIGHTWARDS AND LEFTWARDS OPEN CIRCLE ARROWS;R WITH CIRCLED ONE OVERLAY;
    aDOWNWARDS AND UPWARDS OPEN CIRCLE ARROWS;
    0ANTICLOCKWISE DOWNWARDS AND UPWARDS OPEN CIRCLE ARROWS;0LOW BRIGHTNESS SYMBOL;
    0HIGH BRIGHTNESS SYMBOL;0SPEAKER WITH CANCELLATION STROKE;7;7 WITH ONE SOUND WAVE;
    dTHREE SOUND WAVES;0BATTERY;0ELECTRIC PLUG;0LEFT-POINTING MAGNIFYING GLASS;
    0RIGHT-POINTING MAGNIFYING GLASS;0LOCK WITH INK PEN;0CLOSED LOCK WITH KEY;0KEY;0LOCK;
    0OPEN LOCK;0BELL;4 WITH CANCELLATION STROKE;1OOKMARK;0LINK SYMBOL;0RADIO BUTTON;
    0BACK WITH LEFTWARDS ARROW ABOVE;0END WITH LEFTWARDS ARROW ABOVE;
    0ON WITH EXCLAMATION MARK WITH LEFT RIGHT ARROW ABOVE;0SOON WITH RIGHTWARDS ARROW ABOVE;
    0TOP WITH UPWARDS ARROW ABOVE;0NO ONE UNDER EIGHTEEN SYMBOL;0KEYCAP TEN;
    0INPUT SYMBOL FOR LATIN CAPITAL LETTERS;nSMALL LETTERS;hNUMBERS;hSYMBOLS;hLATIN LETTERS;
    0FIRE;0ELECTRIC TORCH;0WRENCH;0HAMMER;0NUT AND BOLT;0HOCHO;0PISTOL;0MICROSCOPE;0TELESCOPE;
    0CRYSTAL BALL;0SIX POINTED STAR WITH MIDDLE DOT;0JAPANESE SYMBOL FOR BEGINNER;
    0TRIDENT EMBLEM;0BLACK SQUARE BUTTON;0WHITE SQUARE BUTTON;0LARGE RED CIRCLE;6BLUE CIRCLE;
    6ORANGE DIAMOND;6BLUE DIAMOND;0SMALL ORANGE DIAMOND;6BLUE DIAMOND;0UP-POINTING RED TRIANGLE;
    0DOWN-POINTING RED TRIANGLE;0UP-POINTING SMALL RED TRIANGLE;
    0DOWN-POINTING SMALL RED TRIANGLE;0LOWER RIGHT SHADOWED WHITE CIRCLE;
    0UPPER RIGHT SHADOWED WHITE CIRCLE;0CIRCLED CROSS POMMEE;
    1ROSS POMMEE WITH HALF-CIRCLE BELOW;c;0NOTCHED LEFT SEMICIRCLE WITH THREE DOTS;
    8RIGHT SEMICIRCLE WITH THREE DOTS;0SYMBOL FOR MARKS CHAPTER;0WHITE LATIN CROSS;
    0HEAVY LATIN CROSS;0CELTIC CROSS;0OM SYMBOL;0DOVE OF PEACE;0KAABA;0MOSQUE;0SYNAGOGUE;
    0MENORAH WITH NINE BRANCHES;0BOWL OF HYGIEIA;0CLOCK FACE ONE OCLOCK;bTWO OCLOCK;
    cHREE OCLOCK;bFOUR OCLOCK;cIVE OCLOCK;bSIX OCLOCK;cEVEN OCLOCK;bEIGHT OCLOCK;bNINE OCLOCK;
    bTEN OCLOCK;bELEVEN OCLOCK;bTWELVE OCLOCK;bONE-THIRTY;bTWO-THIRTY;cHREE-THIRTY;bFOUR-THIRTY;
    cIVE-THIRTY;bSIX-THIRTY;cEVEN-THIRTY;bEIGHT-THIRTY;bNINE-THIRTY;bTEN-THIRTY;bELEVEN-THIRTY;
    bTWELVE-THIRTY;0RIGHT SPEAKER;d WITH ONE SOUND WAVE;jTHREE SOUND WAVES;0BULLHORN;
    8 WITH SOUND WAVES;0RINGING BELL;0BOOK;0CANDLE;0MANTELPIECE CLOCK;
    0BLACK SKULL AND CROSSBONES;0NO PIRACY;0HOLE;0MAN IN BUSINESS SUIT LEVITATING;
    0SLEUTH OR SPY;0DARK SUNGLASSES;0SPIDER;6 WEB;0JOYSTICK;0MAN DANCING;
    0LEFT HAND TELEPHONE RECEIVER;0TELEPHONE RECEIVER WITH PAGE;0RIGHT HAND TELEPHONE RECEIVER;
    0WHITE TOUCHTONE TELEPHONE;0BLACK TOUCHTONE TELEPHONE;0TELEPHONE ON TOP OF MODEM;
    0CLAMSHELL MOBILE PHONE;0BACK OF ENVELOPE;0STAMPED ENVELOPE;0ENVELOPE WITH LIGHTNING;
    0FLYING ENVELOPE;0PEN OVER STAMPED ENVELOPE;0LINKED PAPERCLIPS;0BLACK PUSHPIN;
    0LOWER LEFT PENCIL;bBALLPOINT PEN;bFOUNTAIN PEN;bPAINTBRUSH;bCRAYON;1EFT WRITING HAND;
    0TURNED OK HAND SIGN;0RAISED HAND WITH FINGERS SPLAYED;
    1EVERSED RAISED HAND WITH FINGERS SPLAYED;9THUMBS UP SIGN;gDOWN SIGN;9VICTORY HAND;
    9HAND WITH MIDDLE FINGER EXTENDED;1AISED HAND WITH PART BETWEEN MIDDLE AND RING FINGERS;
    0WHITE DOWN POINTING LEFT HAND INDEX;0SIDEWAYS WHITE LEFT POINTING INDEX;
    fRIGHT POINTING INDEX;9BLACK LEFT POINTING INDEX;fRIGHT POINTING INDEX;
    0BLACK LEFT POINTING BACKHAND INDEX;6RIGHT POINTING BACKHAND INDEX;
    0SIDEWAYS WHITE UP POINTING INDEX;fDOWN POINTING INDEX;9BLACK UP POINTING INDEX;
    fDOWN POINTING INDEX;0BLACK UP POINTING BACKHAND INDEX;6DOWN POINTING BACKHAND INDEX;6HEART;
    0DESKTOP COMPUTER;0KEYBOARD AND MOUSE;0THREE NETWORKED COMPUTERS;0PRINTER;1OCKET CALCULATOR;
    0BLACK HARD SHELL FLOPPY DISK;0WHITE HARD SHELL FLOPPY DISK;0SOFT SHELL FLOPPY DISK;
    0TAPE CARTRIDGE;0WIRED KEYBOARD;0ONE BUTTON MOUSE;0TWO BUTTON MOUSE;1HREE BUTTON MOUSE;
    1RACKBALL;0OLD PERSONAL COMPUTER;0HARD DISK;0SCREEN;0PRINTER ICON;0FAX ICON;
    0OPTICAL DISC ICON;0DOCUMENT WITH TEXT;i AND PICTURE;ePICTURE;0FRAME WITH PICTURE;bTILES;
    bAN X;0BLACK FOLDER;0FOLDER;0OPEN FOLDER;0CARD INDEX DIVIDERS;5FILE BOX;0FILE CABINET;
    0EMPTY NOTE;a PAGE;dD;0NOTE;4 PAGE;7D;0EMPTY DOCUMENT;6PAGE;aS;0DOCUMENT;0PAGE;4S;
    0WASTEBASKET;0SPIRAL NOTE PAD;7CALENDAR PAD;0DESKTOP WINDOW;0MINIMIZE;1AXIMIZE;0OVERLAP;
    0CLOCKWISE RIGHT AND LEFT SEMICIRCLE ARROWS;1ANCELLATION X;0INCREASE FONT SIZE SYMBOL;
    0DECREASE FONT SIZE SYMBOL;0COMPRESSION;0OLD KEY;0ROLLED-UP NEWSPAPER;
    0PAGE WITH CIRCLED TEXT;0STOCK CHART;0DAGGER KNIFE;0LIPS;0SPEAKING HEAD IN SILHOUETTE;
    0THREE RAYS ABOVE;bBELOW;bLEFT;bRIGHT;0LEFT SPEECH BUBBLE;0RIGHT SPEECH BUBBLE;
    0TWO SPEECH BUBBLES;1HREE SPEECH BUBBLES;0LEFT THOUGHT BUBBLE;0RIGHT THOUGHT BUBBLE;
    0LEFT ANGER BUBBLE;0RIGHT ANGER BUBBLE;0MOOD BUBBLE;0LIGHTNING MOOD BUBBLE;e;
    0BALLOT BOX WITH BALLOT;7SCRIPT X;7BOX WITH SCRIPT X;9LD SCRIPT X;9X WITH BOLD SCRIPT X;
    0LIGHT CHECK MARK;0BALLOT BOX WITH BOLD CHECK;0WORLD MAP;0MOUNT FUJI;0TOKYO TOWER;
    0STATUE OF LIBERTY;1ILHOUETTE OF JAPAN;0MOYAI;0GRINNING FACE;d WITH SMILING EYES;
    0FACE WITH TEARS OF JOY;0SMILING FACE WITH OPEN MOUTH;s AND SMILING EYES;xCOLD SWEAT;
    xTIGHTLY-CLOSED EYES;iHALO;jORNS;0WINKING FACE;0SMILING FACE WITH SMILING EYES;
    0FACE SAVOURING DELICIOUS FOOD;0RELIEVED FACE;0SMILING FACE WITH HEART-SHAPED EYES;
    iSUNGLASSES;3RKING FACE;0NEUTRAL FACE;0EXPRESSIONLESS FACE;0UNAMUSED FACE;
    0FACE WITH COLD SWEAT;0PENSIVE FACE;0CONFUSED FACE;4OUNDED FACE;0KISSING FACE;
    0FACE THROWING A KISS;0KISSING FACE WITH SMILING EYES;iCLOSED EYES;
    0FACE WITH STUCK-OUT TONGUE;q AND WINKING EYE;vTIGHTLY-CLOSED EYES;0DISAPPOINTED FACE;
    0WORRIED FACE;0ANGRY FACE;0POUTING FACE;0CRYING FACE;0PERSEVERING FACE;
    0FACE WITH LOOK OF TRIUMPH;0DISAPPOINTED BUT RELIEVED FACE;0FROWNING FACE WITH OPEN MOUTH;
    0ANGUISHED FACE;0FEARFUL FACE;0WEARY FACE;0SLEEPY FACE;0TIRED FACE;0GRIMACING FACE;
    0LOUDLY CRYING FACE;0FACE WITH OPEN MOUTH;0HUSHED FACE;0FACE WITH OPEN MOUTH AND COLD SWEAT;
    5SCREAMING IN FEAR;0ASTONISHED FACE;0FLUSHED FACE;0SLEEPING FACE;0DIZZY FACE;
    0FACE WITHOUT MOUTH;9 MEDICAL MASK;0GRINNING CAT FACE WITH SMILING EYES;
    0CAT FACE WITH TEARS OF JOY;0SMILING CAT FACE WITH OPEN MOUTH;mHEART-SHAPED EYES;
    0CAT FACE WITH WRY SMILE;0KISSING CAT FACE WITH CLOSED EYES;0POUTING CAT FACE;
    0CRYING CAT FACE;0WEARY CAT FACE;0SLIGHTLY FROWNING FACE;9SMILING FACE;0UPSIDE-DOWN FACE;
    0FACE WITH ROLLING EYES;aNO GOOD GESTURE;aOK GESTURE;0PERSON BOWING DEEPLY;
    0SEE-NO-EVIL MONKEY;0HEAR-NO-EVIL MONKEY;0SPEAK-NO-EVIL MONKEY;
    0HAPPY PERSON RAISING ONE HAND;0PERSON RAISING BOTH HANDS IN CELEBRATION;7FROWNING;
    7WITH POUTING FACE;cFOLDED HANDS;0NORTH WEST POINTING LEAF;0SOUTH WEST POINTING LEAF;
    0NORTH EAST POINTING LEAF;0SOUTH EAST POINTING LEAF;0TURNED NORTH WEST POINTING LEAF;
    7SOUTH WEST POINTING LEAF;7NORTH EAST POINTING LEAF;7SOUTH EAST POINTING LEAF;
    0NORTH WEST POINTING VINE LEAF;0SOUTH WEST POINTING VINE LEAF;
    0NORTH EAST POINTING VINE LEAF;0SOUTH EAST POINTING VINE LEAF;
    0HEAVY NORTH WEST POINTING VINE LEAF;6SOUTH WEST POINTING VINE LEAF;
    6NORTH EAST POINTING VINE LEAF;6SOUTH EAST POINTING VINE LEAF;0NORTH WEST POINTING BUD;
    0SOUTH WEST POINTING BUD;0NORTH EAST POINTING BUD;0SOUTH EAST POINTING BUD;
    0HEAVY NORTH WEST POINTING BUD;6SOUTH WEST POINTING BUD;6NORTH EAST POINTING BUD;
    6SOUTH EAST POINTING BUD;1OLLOW QUILT SQUARE ORNAMENT;s IN BLACK SQUARE;
    0SOLID QUILT SQUARE ORNAMENT;r IN BLACK SQUARE;0LEFTWARDS ROCKET;0UPWARDS ROCKET;
    0RIGHTWARDS ROCKET;0DOWNWARDS ROCKET;0SCRIPT LIGATURE ET ORNAMENT;
    0HEAVY SCRIPT LIGATURE ET ORNAMENT;0LIGATURE OPEN ET ORNAMENT;
    0HEAVY LIGATURE OPEN ET ORNAMENT;6AMPERSAND ORNAMENT;0SWASH AMPERSAND ORNAMENT;
    1ANS-SERIF HEAVY DOUBLE TURNED COMMA QUOTATION MARK ORNAMENT;oCOMMA QUOTATION MARK ORNAMENT;
    hLOW DOUBLE COMMA QUOTATION MARK ORNAMENT;0HEAVY INTERROBANG ORNAMENT;
    0SANS-SERIF INTERROBANG ORNAMENT;0HEAVY SANS-SERIF INTERROBANG ORNAMENT;0VERY HEAVY SOLIDUS;
    bREVERSE SOLIDUS;0CHECKER BOARD;0REVERSE CHECKER BOARD;1OCKET;0HELICOPTER;0STEAM LOCOMOTIVE;
    0RAILWAY CAR;0HIGH-SPEED TRAIN;g WITH BULLET NOSE;0TRAIN;0METRO;0LIGHT RAIL;0STATION;0TRAM;
    4 CAR;0BUS;0ONCOMING BUS;0TROLLEYBUS;0BUS STOP;0MINIBUS;0AMBULANCE;0FIRE ENGINE;0POLICE CAR;
    0ONCOMING POLICE CAR;0TAXI;0ONCOMING TAXI;0AUTOMOBILE;0ONCOMING AUTOMOBILE;
    0RECREATIONAL VEHICLE;0DELIVERY TRUCK;0ARTICULATED LORRY;0TRACTOR;0MONORAIL;2UNTAIN RAILWAY;
    0SUSPENSION RAILWAY;0MOUNTAIN CABLEWAY;0AERIAL TRAMWAY;0SHIP;0ROWBOAT;0SPEEDBOAT;
    0HORIZONTAL TRAFFIC LIGHT;0VERTICAL TRAFFIC LIGHT;0CONSTRUCTION SIGN;
    0POLICE CARS REVOLVING LIGHT;0TRIANGULAR FLAG ON POST;0DOOR;0NO ENTRY SIGN;0SMOKING SYMBOL;
    0NO SMOKING SYMBOL;0PUT LITTER IN ITS PLACE SYMBOL;0DO NOT LITTER SYMBOL;
    0POTABLE WATER SYMBOL;0NON-POTABLE WATER SYMBOL;0BICYCLE;0NO BICYCLES;0BICYCLIST;
    0MOUNTAIN BICYCLIST;0PEDESTRIAN;0NO PEDESTRIANS;0CHILDREN CROSSING;0MENS SYMBOL;
    0WOMENS SYMBOL;0RESTROOM;0BABY SYMBOL;0TOILET;0WATER CLOSET;0SHOWER;0BATH;4TUB;
    0PASSPORT CONTROL;0CUSTOMS;0BAGGAGE CLAIM;0LEFT LUGGAGE;0TRIANGLE WITH ROUNDED CORNERS;
    0PROHIBITED SIGN;0CIRCLED INFORMATION SOURCE;0BOYS SYMBOL;0GIRLS SYMBOL;0COUCH AND LAMP;
    0SLEEPING ACCOMMODATION;1HOPPING BAGS;0BELLHOP BELL;2D;0PLACE OF WORSHIP;0OCTAGONAL SIGN;
    0SHOPPING TROLLEY;1TUPA;0PAGODA;0HINDU TEMPLE;1UT;0ELEVATOR;1F6DD=0PLAYGROUND SLIDE;0WHEEL;
    0RING BUOY;0HAMMER AND WRENCH;0SHIELD;0OIL DRUM;0MOTORWAY;0RAILWAY TRACK;0MOTOR BOAT;
    0UP-POINTING MILITARY AIRPLANE;cAIRPLANE;cSMALL AIRPLANE;0SMALL AIRPLANE;
    0NORTHEAST-POINTING AIRPLANE;0AIRPLANE DEPARTURE;9ARRIVING;1F6F0=0SATELLITE;
    0ONCOMING FIRE ENGINE;0DIESEL LOCOMOTIVE;0PASSENGER SHIP;0SCOOTER;0MOTOR SCOOTER;0CANOE;
    0SLED;0FLYING SAUCER;0SKATEBOARD;0AUTO RICKSHAW;0PICKUP TRUCK;0ROLLER SKATE;
    1F700=0ALCHEMICAL SYMBOL FOR QUINTESSENCE;mAIR;mFIRE;mEARTH;mWATER;mAQUAFORTIS;q REGIA;w-2;
    rVITAE;w-2;mVINEGAR;t-2;u3;mSULFUR;mPHILOSOPHERS SULFUR;mBLACK SULFUR;mMERCURY SUBLIMATE;
    D-2;E3;mCINNABAR;mSALT;mNITRE;mVITRIOL;t-2;mROCK SALT;v-2;mGOLD;mSILVER;mIRON ORE;u-2;
    mCROCUS OF IRON;mREGULUS OF IRON;mCOPPER ORE;mIRON-COPPER ORE;mSUBLIMATE OF COPPER;
    mCROCUS OF COPPER;C-2;nOPPER ANTIMONIATE;mSALT OF COPPER ANTIMONIATE;
    nUBLIMATE OF SALT OF COPPER;mVERDIGRIS;mTIN ORE;mLEAD ORE;mANTIMONY ORE;
    mSUBLIMATE OF ANTIMONY;nALT OF ANTIMONY;nUBLIMATE OF SALT OF ANTIMONY;mVINEGAR OF ANTIMONY;
    mREGULUS OF ANTIMONY;F-2;t;t-2;u3;u4;mALKALI;s-2;mMARCASITE;mSAL-AMMONIAC;mARSENIC;mREALGAR;
    t-2;mAURIPIGMENT;mBISMUTH ORE;mTARTAR;s-2;mQUICK LIME;mBORAX;r-2;s3;mALUM;mOIL;mSPIRIT;
    mTINCTURE;mGUM;mWAX;mPOWDER;mCALX;mTUTTY;mCAPUT MORTUUM;mSCEPTER OF JOVE;mCADUCEUS;mTRIDENT;
    mSTARRED TRIDENT;mLODESTONE;mSOAP;mURINE;mHORSE DUNG;mASHES;mPOT ASHES;mBRICK;
    mPOWDERED BRICK;mAMALGAM;mSTRATUM SUPER STRATUM;H-2;nUBLIMATION;mPRECIPITATE;mDISTILL;
    pSOLVE;u-2;mPURIFY;oTREFACTION;mCRUCIBLE;u-2;v3;v4;v5;mALEMBIC;mBATH OF MARY;uVAPOURS;
    mRETORT;mHOUR;mNIGHT;mDAY-NIGHT;mMONTH;mHALF DRAM;rOUNCE;
    1F780=0BLACK LEFT-POINTING ISOSCELES RIGHT TRIANGLE;6UP-POINTING ISOSCELES RIGHT TRIANGLE;
    6RIGHT-POINTING ISOSCELES RIGHT TRIANGLE;6DOWN-POINTING ISOSCELES RIGHT TRIANGLE;
    6SLIGHTLY SMALL CIRCLE;0MEDIUM BOLD WHITE CIRCLE;0BOLD WHITE CIRCLE;0HEAVY WHITE CIRCLE;
    0VERY HEAVY WHITE CIRCLE;0EXTREMELY HEAVY WHITE CIRCLE;
    0WHITE CIRCLE CONTAINING BLACK SMALL CIRCLE;0ROUND TARGET;0BLACK TINY SQUARE;
    6SLIGHTLY SMALL SQUARE;0LIGHT WHITE SQUARE;0MEDIUM WHITE SQUARE;0BOLD WHITE SQUARE;
    0HEAVY WHITE SQUARE;0VERY HEAVY WHITE SQUARE;0EXTREMELY HEAVY WHITE SQUARE;
    0WHITE SQUARE CONTAINING BLACK VERY SMALL SQUARE;uMEDIUM SQUARE;0SQUARE TARGET;
    0BLACK TINY DIAMOND;6VERY SMALL DIAMOND;6MEDIUM SMALL DIAMOND;
    0WHITE DIAMOND CONTAINING BLACK VERY SMALL DIAMOND;vMEDIUM DIAMOND;0DIAMOND TARGET;
    0BLACK TINY LOZENGE;6VERY SMALL LOZENGE;6MEDIUM SMALL LOZENGE;
    0WHITE LOZENGE CONTAINING BLACK SMALL LOZENGE;0THIN GREEK CROSS;0LIGHT GREEK CROSS;
    0MEDIUM GREEK CROSS;0BOLD GREEK CROSS;0VERY BOLD GREEK CROSS;5HEAVY GREEK CROSS;
    0EXTREMELY HEAVY GREEK CROSS;0THIN SALTIRE;0LIGHT SALTIRE;0MEDIUM SALTIRE;0BOLD SALTIRE;
    0HEAVY SALTIRE;0VERY HEAVY SALTIRE;0EXTREMELY HEAVY SALTIRE;0LIGHT FIVE SPOKED ASTERISK;
    0MEDIUM FIVE SPOKED ASTERISK;0BOLD FIVE SPOKED ASTERISK;0HEAVY FIVE SPOKED ASTERISK;
    0VERY HEAVY FIVE SPOKED ASTERISK;0EXTREMELY HEAVY FIVE SPOKED ASTERISK;
    0LIGHT SIX SPOKED ASTERISK;0MEDIUM SIX SPOKED ASTERISK;0BOLD SIX SPOKED ASTERISK;
    0HEAVY SIX SPOKED ASTERISK;0VERY HEAVY SIX SPOKED ASTERISK;
    0EXTREMELY HEAVY SIX SPOKED ASTERISK;0LIGHT EIGHT SPOKED ASTERISK;
    0MEDIUM EIGHT SPOKED ASTERISK;0BOLD EIGHT SPOKED ASTERISK;0HEAVY EIGHT SPOKED ASTERISK;
    0VERY HEAVY EIGHT SPOKED ASTERISK;0LIGHT THREE POINTED BLACK STAR;
    0MEDIUM THREE POINTED BLACK STAR;0THREE POINTED BLACK STAR;
    0MEDIUM THREE POINTED PINWHEEL STAR;0LIGHT FOUR POINTED BLACK STAR;
    0MEDIUM FOUR POINTED BLACK STAR;0FOUR POINTED BLACK STAR;0MEDIUM FOUR POINTED PINWHEEL STAR;
    0REVERSE LIGHT FOUR POINTED PINWHEEL STAR;0LIGHT FIVE POINTED BLACK STAR;
    0HEAVY FIVE POINTED BLACK STAR;0MEDIUM SIX POINTED BLACK STAR;0HEAVY SIX POINTED BLACK STAR;
    0SIX POINTED PINWHEEL STAR;0MEDIUM EIGHT POINTED BLACK STAR;0HEAVY EIGHT POINTED BLACK STAR;
    0VERY HEAVY EIGHT POINTED BLACK STAR;0HEAVY EIGHT POINTED PINWHEEL STAR;
    0LIGHT TWELVE POINTED BLACK STAR;0HEAVY TWELVE POINTED BLACK STAR;lPINWHEEL STAR;
    0CIRCLED TRIANGLE;0NEGATIVE CIRCLED TRIANGLE;0CIRCLED SQUARE;0NEGATIVE CIRCLED SQUARE;
    1F7E0=0LARGE ORANGE CIRCLE;6YELLOW CIRCLE;6GREEN CIRCLE;6PURPLE CIRCLE;6BROWN CIRCLE;
    6RED SQUARE;6BLUE SQUARE;6ORANGE SQUARE;6YELLOW SQUARE;6GREEN SQUARE;6PURPLE SQUARE;
    6BROWN SQUARE;1F7F0=0HEAVY EQUALS SIGN;1F800=0LEFTWARDS ARROW WITH SMALL TRIANGLE ARROWHEAD;
    0UPWARDS ARROW WITH SMALL TRIANGLE ARROWHEAD;
    0RIGHTWARDS ARROW WITH SMALL TRIANGLE ARROWHEAD;
    0DOWNWARDS ARROW WITH SMALL TRIANGLE ARROWHEAD;
    0LEFTWARDS ARROW WITH MEDIUM TRIANGLE ARROWHEAD;
    0UPWARDS ARROW WITH MEDIUM TRIANGLE ARROWHEAD;
    0RIGHTWARDS ARROW WITH MEDIUM TRIANGLE ARROWHEAD;
    0DOWNWARDS ARROW WITH MEDIUM TRIANGLE ARROWHEAD;
    0LEFTWARDS ARROW WITH LARGE TRIANGLE ARROWHEAD;0UPWARDS ARROW WITH LARGE TRIANGLE ARROWHEAD;
    0RIGHTWARDS ARROW WITH LARGE TRIANGLE ARROWHEAD;
    0DOWNWARDS ARROW WITH LARGE TRIANGLE ARROWHEAD;
    1F810=0LEFTWARDS ARROW WITH SMALL EQUILATERAL ARROWHEAD;
    0UPWARDS ARROW WITH SMALL EQUILATERAL ARROWHEAD;
    0RIGHTWARDS ARROW WITH SMALL EQUILATERAL ARROWHEAD;
    0DOWNWARDS ARROW WITH SMALL EQUILATERAL ARROWHEAD;
    0LEFTWARDS ARROW WITH EQUILATERAL ARROWHEAD;0UPWARDS ARROW WITH EQUILATERAL ARROWHEAD;
    0RIGHTWARDS ARROW WITH EQUILATERAL ARROWHEAD;0DOWNWARDS ARROW WITH EQUILATERAL ARROWHEAD;
    0HEAVY LEFTWARDS ARROW WITH EQUILATERAL ARROWHEAD;6UPWARDS ARROW WITH EQUILATERAL ARROWHEAD;
    6RIGHTWARDS ARROW WITH EQUILATERAL ARROWHEAD;6DOWNWARDS ARROW WITH EQUILATERAL ARROWHEAD;
    6LEFTWARDS ARROW WITH LARGE EQUILATERAL ARROWHEAD;
    6UPWARDS ARROW WITH LARGE EQUILATERAL ARROWHEAD;
    6RIGHTWARDS ARROW WITH LARGE EQUILATERAL ARROWHEAD;
    6DOWNWARDS ARROW WITH LARGE EQUILATERAL ARROWHEAD;
    0LEFTWARDS TRIANGLE-HEADED ARROW WITH NARROW SHAFT;
    0UPWARDS TRIANGLE-HEADED ARROW WITH NARROW SHAFT;
    0RIGHTWARDS TRIANGLE-HEADED ARROW WITH NARROW SHAFT;
    0DOWNWARDS TRIANGLE-HEADED ARROW WITH NARROW SHAFT;
    0LEFTWARDS TRIANGLE-HEADED ARROW WITH MEDIUM SHAFT;
    0UPWARDS TRIANGLE-HEADED ARROW WITH MEDIUM SHAFT;
    0RIGHTWARDS TRIANGLE-HEADED ARROW WITH MEDIUM SHAFT;
    0DOWNWARDS TRIANGLE-HEADED ARROW WITH MEDIUM SHAFT;
    0LEFTWARDS TRIANGLE-HEADED ARROW WITH BOLD SHAFT;
    0UPWARDS TRIANGLE-HEADED ARROW WITH BOLD SHAFT;
    0RIGHTWARDS TRIANGLE-HEADED ARROW WITH BOLD SHAFT;
    0DOWNWARDS TRIANGLE-HEADED ARROW WITH BOLD SHAFT;
    0LEFTWARDS TRIANGLE-HEADED ARROW WITH HEAVY SHAFT;
    0UPWARDS TRIANGLE-HEADED ARROW WITH HEAVY SHAFT;
    0RIGHTWARDS TRIANGLE-HEADED ARROW WITH HEAVY SHAFT;
    0DOWNWARDS TRIANGLE-HEADED ARROW WITH HEAVY SHAFT;
    0LEFTWARDS TRIANGLE-HEADED ARROW WITH VERY HEAVY SHAFT;
    0UPWARDS TRIANGLE-HEADED ARROW WITH VERY HEAVY SHAFT;
    0RIGHTWARDS TRIANGLE-HEADED ARROW WITH VERY HEAVY SHAFT;
    0DOWNWARDS TRIANGLE-HEADED ARROW WITH VERY HEAVY SHAFT;0LEFTWARDS FINGER-POST ARROW;
    0UPWARDS FINGER-POST ARROW;0RIGHTWARDS FINGER-POST ARROW;0DOWNWARDS FINGER-POST ARROW;
    0LEFTWARDS SQUARED ARROW;0UPWARDS SQUARED ARROW;0RIGHTWARDS SQUARED ARROW;
    0DOWNWARDS SQUARED ARROW;0LEFTWARDS COMPRESSED ARROW;0UPWARDS COMPRESSED ARROW;
    0RIGHTWARDS COMPRESSED ARROW;0DOWNWARDS COMPRESSED ARROW;0LEFTWARDS HEAVY COMPRESSED ARROW;
    0UPWARDS HEAVY COMPRESSED ARROW;0RIGHTWARDS HEAVY COMPRESSED ARROW;
    0DOWNWARDS HEAVY COMPRESSED ARROW;0LEFTWARDS HEAVY ARROW;0UPWARDS HEAVY ARROW;
    0RIGHTWARDS HEAVY ARROW;0DOWNWARDS HEAVY ARROW;1F850=0LEFTWARDS SANS-SERIF ARROW;
    0UPWARDS SANS-SERIF ARROW;0RIGHTWARDS SANS-SERIF ARROW;0DOWNWARDS SANS-SERIF ARROW;
    0NORTH WEST SANS-SERIF ARROW;6EAST SANS-SERIF ARROW;0SOUTH EAST SANS-SERIF ARROW;
    6WEST SANS-SERIF ARROW;0LEFT RIGHT SANS-SERIF ARROW;0UP DOWN SANS-SERIF ARROW;
    1F860=0WIDE-HEADED LEFTWARDS LIGHT BARB ARROW;cUPWARDS LIGHT BARB ARROW;
    cRIGHTWARDS LIGHT BARB ARROW;cDOWNWARDS LIGHT BARB ARROW;cNORTH WEST LIGHT BARB ARROW;
    iEAST LIGHT BARB ARROW;cSOUTH EAST LIGHT BARB ARROW;iWEST LIGHT BARB ARROW;
    cLEFTWARDS BARB ARROW;cUPWARDS BARB ARROW;cRIGHTWARDS BARB ARROW;cDOWNWARDS BARB ARROW;
    cNORTH WEST BARB ARROW;iEAST BARB ARROW;cSOUTH EAST BARB ARROW;iWEST BARB ARROW;
    cLEFTWARDS MEDIUM BARB ARROW;cUPWARDS MEDIUM BARB ARROW;cRIGHTWARDS MEDIUM BARB ARROW;
    cDOWNWARDS MEDIUM BARB ARROW;cNORTH WEST MEDIUM BARB ARROW;iEAST MEDIUM BARB ARROW;
    cSOUTH EAST MEDIUM BARB ARROW;iWEST MEDIUM BARB ARROW;cLEFTWARDS HEAVY BARB ARROW;
    cUPWARDS HEAVY BARB ARROW;cRIGHTWARDS HEAVY BARB ARROW;cDOWNWARDS HEAVY BARB ARROW;
    cNORTH WEST HEAVY BARB ARROW;iEAST HEAVY BARB ARROW;cSOUTH EAST HEAVY BARB ARROW;
    iWEST HEAVY BARB ARROW;cLEFTWARDS VERY HEAVY BARB ARROW;cUPWARDS VERY HEAVY BARB ARROW;
    cRIGHTWARDS VERY HEAVY BARB ARROW;cDOWNWARDS VERY HEAVY BARB ARROW;
    cNORTH WEST VERY HEAVY BARB ARROW;iEAST VERY HEAVY BARB ARROW;
    cSOUTH EAST VERY HEAVY BARB ARROW;iWEST VERY HEAVY BARB ARROW;
    1F890=0LEFTWARDS TRIANGLE ARROWHEAD;0UPWARDS TRIANGLE ARROWHEAD;
    0RIGHTWARDS TRIANGLE ARROWHEAD;0DOWNWARDS TRIANGLE ARROWHEAD;
    0LEFTWARDS WHITE ARROW WITHIN TRIANGLE ARROWHEAD;
    0UPWARDS WHITE ARROW WITHIN TRIANGLE ARROWHEAD;
    0RIGHTWARDS WHITE ARROW WITHIN TRIANGLE ARROWHEAD;
    0DOWNWARDS WHITE ARROW WITHIN TRIANGLE ARROWHEAD;0LEFTWARDS ARROW WITH NOTCHED TAIL;
    0UPWARDS ARROW WITH NOTCHED TAIL;0RIGHTWARDS ARROW WITH NOTCHED TAIL;
    0DOWNWARDS ARROW WITH NOTCHED TAIL;0HEAVY ARROW SHAFT WIDTH ONE;oTWO THIRDS;oONE HALF;
    sTHIRD;0LEFTWARDS BOTTOM-SHADED WHITE ARROW;0RIGHTWARDS BOTTOM SHADED WHITE ARROW;
    0LEFTWARDS TOP SHADED WHITE ARROW;0RIGHTWARDS TOP SHADED WHITE ARROW;
    0LEFTWARDS LEFT-SHADED WHITE ARROW;0RIGHTWARDS RIGHT-SHADED WHITE ARROW;
    0LEFTWARDS RIGHT-SHADED WHITE ARROW;0RIGHTWARDS LEFT-SHADED WHITE ARROW;
    0LEFTWARDS BACK-TILTED SHADOWED WHITE ARROW;0RIGHTWARDS BACK-TILTED SHADOWED WHITE ARROW;
    0LEFTWARDS FRONT-TILTED SHADOWED WHITE ARROW;0RIGHTWARDS FRONT-TILTED SHADOWED WHITE ARROW;
    0WHITE ARROW SHAFT WIDTH ONE;oTWO THIRDS;1F8B0=0ARROW POINTING UPWARDS THEN NORTH WEST;
    fRIGHTWARDS THEN CURVING SOUTH WEST;1F900=0CIRCLED CROSS FORMEE WITH FOUR DOTS;qTWO DOTS;k;
    0LEFT HALF CIRCLE WITH FOUR DOTS;mTHREE DOTS;nWO DOTS;mDOT;g;0DOWNWARD FACING HOOK;
    gNOTCHED HOOK;gHOOK WITH DOT;gNOTCHED HOOK WITH DOT;0PINCHED FINGERS;0WHITE HEART;
    0BROWN HEART;0PINCHING HAND;0ZIPPER-MOUTH FACE;0MONEY-MOUTH FACE;0FACE WITH THERMOMETER;
    0NERD FACE;0THINKING FACE;0FACE WITH HEAD-BANDAGE;0ROBOT FACE;0HUGGING FACE;
    0SIGN OF THE HORNS;0CALL ME HAND;0RAISED BACK OF HAND;0LEFT-FACING FIST;0RIGHT-FACING FIST;
    0HANDSHAKE;4 WITH INDEX AND MIDDLE FINGERS CROSSED;0I LOVE YOU HAND SIGN;
    0FACE WITH COWBOY HAT;0CLOWN FACE;0NAUSEATED FACE;0ROLLING ON THE FLOOR LAUGHING;
    0DROOLING FACE;0LYING FACE;0FACE PALM;0SNEEZING FACE;0FACE WITH ONE EYEBROW RAISED;
    0GRINNING FACE WITH STAR EYES;jONE LARGE AND ONE SMALL EYE;
    0FACE WITH FINGER COVERING CLOSED LIPS;0SERIOUS FACE WITH SYMBOLS COVERING MOUTH;
    1MILING FACE WITH SMILING EYES AND HAND COVERING MOUTH;0FACE WITH OPEN MOUTH VOMITING;
    0SHOCKED FACE WITH EXPLODING HEAD;0PREGNANT WOMAN;0BREAST-FEEDING;0PALMS UP TOGETHER;
    0SELFIE;0PRINCE;0MAN IN TUXEDO;1OTHER CHRISTMAS;0SHRUG;0PERSON DOING CARTWHEEL;0JUGGLING;
    0FENCER;0MODERN PENTATHLON;0WRESTLERS;1ATER POLO;0HANDBALL;0DIVING MASK;0WILTED FLOWER;
    0DRUM WITH DRUMSTICKS;0CLINKING GLASSES;0TUMBLER GLASS;0SPOON;0GOAL NET;0RIFLE;
    0FIRST PLACE MEDAL;0SECOND PLACE MEDAL;0THIRD PLACE MEDAL;0BOXING GLOVE;
    0MARTIAL ARTS UNIFORM;0CURLING STONE;0LACROSSE STICK AND BALL;0SOFTBALL;0FLYING DISC;
    0CROISSANT;0AVOCADO;0CUCUMBER;0BACON;0POTATO;0CARROT;0BAGUETTE BREAD;0GREEN SALAD;
    0SHALLOW PAN OF FOOD;1TUFFED FLATBREAD;0EGG;0GLASS OF MILK;0PEANUTS;0KIWIFRUIT;0PANCAKES;
    0DUMPLING;0FORTUNE COOKIE;0TAKEOUT BOX;0CHOPSTICKS;0BOWL WITH SPOON;0CUP WITH STRAW;1OCONUT;
    0BROCCOLI;0PIE;1RETZEL;0CUT OF MEAT;0SANDWICH;0CANNED FOOD;0LEAFY GREEN;0MANGO;1OON CAKE;
    0BAGEL;0SMILING FACE WITH SMILING EYES AND THREE HEARTS;0YAWNING FACE;
    0SMILING FACE WITH TEAR;0FACE WITH PARTY HORN AND PARTY HAT;aUNEVEN EYES AND WAVY MOUTH;
    0OVERHEATED FACE;0FREEZING FACE;0NINJA;0DISGUISED FACE;0FACE HOLDING BACK TEARS;
    5WITH PLEADING EYES;0SARI;0LAB COAT;0GOGGLES;0HIKING BOOT;0FLAT SHOE;0CRAB;0LION FACE;
    0SCORPION;0TURKEY;0UNICORN FACE;0EAGLE;0DUCK;0BAT;0SHARK;0OWL;0FOX FACE;0BUTTERFLY;0DEER;
    0GORILLA;0LIZARD;0RHINOCEROS;0SHRIMP;1QUID;0GIRAFFE FACE;0ZEBRA FACE;0HEDGEHOG;0SAUROPOD;
    0T-REX;0CRICKET;0KANGAROO;0LLAMA;0PEACOCK;0HIPPOPOTAMUS;0PARROT;0RACCOON;0LOBSTER;0MOSQUITO;
    1ICROBE;0BADGER;0SWAN;0MAMMOTH;0DODO;0SLOTH;0OTTER;1RANGUTAN;0SKUNK;0FLAMINGO;0OYSTER;
    0BEAVER;1ISON;0SEAL;0GUIDE DOG;0PROBING CANE;0EMOJI COMPONENT RED HAIR;gCURLY HAIR;gBALD;
    gWHITE HAIR;0BONE;0LEG;0FOOT;0TOOTH;0SUPERHERO;5VILLAIN;1AFETY VEST;0EAR WITH HEARING AID;
    0MOTORIZED WHEELCHAIR;1ANUAL WHEELCHAIR;1ECHANICAL ARM;bLEG;0CHEESE WEDGE;1UPCAKE;
    0SALT SHAKER;0BEVERAGE BOX;0GARLIC;0ONION;0FALAFEL;0WAFFLE;0BUTTER;0MATE DRINK;0ICE CUBE;
    0BUBBLE TEA;0TROLL;0STANDING PERSON;0KNEELING PERSON;0DEAF PERSON;0FACE WITH MONOCLE;0ADULT;
    0CHILD;0OLDER ADULT;0BEARDED PERSON;0PERSON WITH HEADSCARF;7IN STEAMY ROOM;7CLIMBING;
    7IN LOTUS POSITION;0MAGE;0FAIRY;0VAMPIRE;0MERPERSON;0ELF;0GENIE;0ZOMBIE;0BRAIN;
    0ORANGE HEART;0BILLED CAP;0SCARF;0GLOVES;0COAT;0SOCKS;0RED GIFT ENVELOPE;0FIRECRACKER;
    0JIGSAW PUZZLE PIECE;0TEST TUBE;0PETRI DISH;0DNA DOUBLE HELIX;0COMPASS;0ABACUS;
    0FIRE EXTINGUISHER;0TOOLBOX;0BRICK;0MAGNET;0LUGGAGE;1OTION BOTTLE;0SPOOL OF THREAD;
    0BALL OF YARN;0SAFETY PIN;0TEDDY BEAR;0BROOM;1ASKET;0ROLL OF PAPER;0BAR OF SOAP;0SPONGE;
    0RECEIPT;0NAZAR AMULET;1EUTRAL CHESS KING;eQUEEN;eROOK;eBISHOP;eKNIGHT;ePAWN;
    0WHITE CHESS KNIGHT ROTATED FORTY-FIVE DEGREES;
    0BLACK CHESS KNIGHT ROTATED FORTY-FIVE DEGREES;
    0NEUTRAL CHESS KNIGHT ROTATED FORTY-FIVE DEGREES;0WHITE CHESS KING ROTATED NINETY DEGREES;
    cQUEEN ROTATED NINETY DEGREES;cROOK ROTATED NINETY DEGREES;cBISHOP ROTATED NINETY DEGREES;
    cKNIGHT ROTATED NINETY DEGREES;cPAWN ROTATED NINETY DEGREES;
    0BLACK CHESS KING ROTATED NINETY DEGREES;cQUEEN ROTATED NINETY DEGREES;
    cROOK ROTATED NINETY DEGREES;cBISHOP ROTATED NINETY DEGREES;cKNIGHT ROTATED NINETY DEGREES;
    cPAWN ROTATED NINETY DEGREES;0NEUTRAL CHESS KING ROTATED NINETY DEGREES;
    eQUEEN ROTATED NINETY DEGREES;eROOK ROTATED NINETY DEGREES;eBISHOP ROTATED NINETY DEGREES;
    eKNIGHT ROTATED NINETY DEGREES;ePAWN ROTATED NINETY DEGREES;
    0WHITE CHESS KNIGHT ROTATED ONE HUNDRED THIRTY-FIVE DEGREES;
    0BLACK CHESS KNIGHT ROTATED ONE HUNDRED THIRTY-FIVE DEGREES;
    0NEUTRAL CHESS KNIGHT ROTATED ONE HUNDRED THIRTY-FIVE DEGREES;0WHITE CHESS TURNED KING;
    jQUEEN;jROOK;jBISHOP;jKNIGHT;jPAWN;0BLACK CHESS TURNED KING;jQUEEN;jROOK;jBISHOP;jKNIGHT;
    jPAWN;0NEUTRAL CHESS TURNED KING;lQUEEN;lROOK;lBISHOP;lKNIGHT;lPAWN;
    0WHITE CHESS KNIGHT ROTATED TWO HUNDRED TWENTY-FIVE DEGREES;
    0BLACK CHESS KNIGHT ROTATED TWO HUNDRED TWENTY-FIVE DEGREES;
    0NEUTRAL CHESS KNIGHT ROTATED TWO HUNDRED TWENTY-FIVE DEGREES;
    0WHITE CHESS KING ROTATED TWO HUNDRED SEVENTY DEGREES;
    cQUEEN ROTATED TWO HUNDRED SEVENTY DEGREES;cROOK ROTATED TWO HUNDRED SEVENTY DEGREES;
    cBISHOP ROTATED TWO HUNDRED SEVENTY DEGREES;cKNIGHT ROTATED TWO HUNDRED SEVENTY DEGREES;
    cPAWN ROTATED TWO HUNDRED SEVENTY DEGREES;
    0BLACK CHESS KING ROTATED TWO HUNDRED SEVENTY DEGREES;
    cQUEEN ROTATED TWO HUNDRED SEVENTY DEGREES;cROOK ROTATED TWO HUNDRED SEVENTY DEGREES;
    cBISHOP ROTATED TWO HUNDRED SEVENTY DEGREES;cKNIGHT ROTATED TWO HUNDRED SEVENTY DEGREES;
    cPAWN ROTATED TWO HUNDRED SEVENTY DEGREES;
    0NEUTRAL CHESS KING ROTATED TWO HUNDRED SEVENTY DEGREES;
    eQUEEN ROTATED TWO HUNDRED SEVENTY DEGREES;eROOK ROTATED TWO HUNDRED SEVENTY DEGREES;
    eBISHOP ROTATED TWO HUNDRED SEVENTY DEGREES;eKNIGHT ROTATED TWO HUNDRED SEVENTY DEGREES;
    ePAWN ROTATED TWO HUNDRED SEVENTY DEGREES;
    0WHITE CHESS KNIGHT ROTATED THREE HUNDRED FIFTEEN DEGREES;
    0BLACK CHESS KNIGHT ROTATED THREE HUNDRED FIFTEEN DEGREES;
    0NEUTRAL CHESS KNIGHT ROTATED THREE HUNDRED FIFTEEN DEGREES;0WHITE CHESS EQUIHOPPER;
    0BLACK CHESS EQUIHOPPER;0NEUTRAL CHESS EQUIHOPPER;
    0WHITE CHESS EQUIHOPPER ROTATED NINETY DEGREES;
    0BLACK CHESS EQUIHOPPER ROTATED NINETY DEGREES;
    0NEUTRAL CHESS EQUIHOPPER ROTATED NINETY DEGREES;0WHITE CHESS KNIGHT-QUEEN;jROOK;jBISHOP;
    0BLACK CHESS KNIGHT-QUEEN;jROOK;jBISHOP;1FA60=0XIANGQI RED GENERAL;cMANDARIN;cELEPHANT;
    cHORSE;cCHARIOT;dANNON;cSOLDIER;8BLACK GENERAL;eMANDARIN;eELEPHANT;eHORSE;eCHARIOT;fANNON;
    eSOLDIER;1FA70=0BALLET SHOES;0ONE-PIECE SWIMSUIT;0BRIEFS;0SHORTS;0THONG SANDAL;
    1FA78=0DROP OF BLOOD;0ADHESIVE BANDAGE;0STETHOSCOPE;0X-RAY;0CRUTCH;1FA80=0YO-YO;0KITE;
    0PARACHUTE;0BOOMERANG;0MAGIC WAND;0PINATA;0NESTING DOLLS;1FA90=0RINGED PLANET;0CHAIR;0RAZOR;
    0AXE;0DIYA LAMP;0BANJO;0MILITARY HELMET;0ACCORDION;0LONG DRUM;0COIN;1ARPENTRY SAW;
    0SCREWDRIVER;0LADDER;0HOOK;0MIRROR;0WINDOW;0PLUNGER;0SEWING NEEDLE;0KNOT;0BUCKET;
    0MOUSE TRAP;0TOOTHBRUSH;0HEADSTONE;0PLACARD;0ROCK;0MIRROR BALL;0IDENTIFICATION CARD;
    0LOW BATTERY;0HAMSA;1FAB0=0FLY;0WORM;0BEETLE;0COCKROACH;0POTTED PLANT;0WOOD;0FEATHER;0LOTUS;
    0CORAL;0EMPTY NEST;0NEST WITH EGGS;1FAC0=0ANATOMICAL HEART;0LUNGS;0PEOPLE HUGGING;
    1REGNANT MAN;9PERSON;1ERSON WITH CROWN;1FAD0=0BLUEBERRIES;1ELL PEPPER;0OLIVE;0FLATBREAD;
    0TAMALE;0FONDUE;0TEAPOT;0POURING LIQUID;0BEANS;0JAR;1FAE0=0MELTING FACE;0SALUTING FACE;
    0FACE WITH OPEN EYES AND HAND OVER MOUTH;aPEEKING EYE;aDIAGONAL MOUTH;0DOTTED LINE FACE;
    0BITING LIP;1UBBLES;1FAF0=0HAND WITH INDEX FINGER AND THUMB CROSSED;0RIGHTWARDS HAND;
    0LEFTWARDS HAND;0PALM DOWN HAND;5UP HAND;0INDEX POINTING AT THE VIEWER;0HEART HANDS;
    1FB00=0BLOCK SEXTANT-1;e2;e12;e3;e13;e23;e123;e4;e14;e24;e124;e34;e134;e234;e1234;e5;e15;
    e25;e125;e35;e235;e1235;e45;e145;e245;e1245;e345;e1345;e2345;e12345;e6;e16;e26;e126;e36;
    e136;e236;e1236;e46;e146;f246;e346;e1346;e2346;e12346;e56;e156;e256;e1256;e356;e1356;e2356;
    e12356;e456;e1456;e2456;e12456;e3456;e13456;e23456;
    0LOWER LEFT BLOCK DIAGONAL LOWER MIDDLE LEFT TO LOWER CENTRE;RRIGHT;
    qUPPER MIDDLE LEFT TO LOWER CENTRE;RRIGHT;wLEFT TO LOWER CENTRE;
    6RIGHT BLOCK DIAGONAL UPPER MIDDLE LEFT TO UPPER CENTRE;SRIGHT;
    rLOWER MIDDLE LEFT TO UPPER CENTRE;SRIGHT;xLEFT TO UPPER CENTRE;
    xMIDDLE LEFT TO UPPER MIDDLE RIGHT;xCENTRE TO LOWER MIDDLE RIGHT;
    xLEFT TO LOWER MIDDLE RIGHT;xCENTRE TO UPPER MIDDLE RIGHT;xLEFT TO UPPER MIDDLE RIGHT;
    xCENTRE TO UPPER RIGHT;6LEFT BLOCK DIAGONAL UPPER CENTRE TO UPPER MIDDLE RIGHT;
    wLEFT TO UPPER MIDDLE RIGHT;wCENTRE TO LOWER MIDDLE RIGHT;wLEFT TO LOWER MIDDLE RIGHT;
    wCENTRE TO LOWER RIGHT;wMIDDLE LEFT TO LOWER MIDDLE RIGHT;
    0UPPER RIGHT BLOCK DIAGONAL LOWER MIDDLE LEFT TO LOWER CENTRE;SRIGHT;
    rUPPER MIDDLE LEFT TO LOWER CENTRE;SRIGHT;xLEFT TO LOWER CENTRE;
    6LEFT BLOCK DIAGONAL UPPER MIDDLE LEFT TO UPPER CENTRE;RRIGHT;
    qLOWER MIDDLE LEFT TO UPPER CENTRE;RRIGHT;wLEFT TO UPPER CENTRE;
    wMIDDLE LEFT TO UPPER MIDDLE RIGHT;wCENTRE TO LOWER MIDDLE RIGHT;
    wLEFT TO LOWER MIDDLE RIGHT;wCENTRE TO UPPER MIDDLE RIGHT;wLEFT TO UPPER MIDDLE RIGHT;
    wCENTRE TO UPPER RIGHT;6RIGHT BLOCK DIAGONAL UPPER CENTRE TO UPPER MIDDLE RIGHT;
    xLEFT TO UPPER MIDDLE RIGHT;xCENTRE TO LOWER MIDDLE RIGHT;xLEFT TO LOWER MIDDLE RIGHT;
    xCENTRE TO LOWER RIGHT;xMIDDLE LEFT TO LOWER MIDDLE RIGHT;
    6AND RIGHT AND LOWER TRIANGULAR THREE QUARTERS BLOCK;
    0LEFT AND LOWER AND RIGHT TRIANGULAR THREE QUARTERS BLOCK;
    0UPPER AND LEFT AND LOWER TRIANGULAR THREE QUARTERS BLOCK;
    0LEFT AND UPPER AND RIGHT TRIANGULAR THREE QUARTERS BLOCK;5TRIANGULAR ONE QUARTER BLOCK;
    0UPPER TRIANGULAR ONE QUARTER BLOCK;0RIGHT TRIANGULAR ONE QUARTER BLOCK;
    0LOWER TRIANGULAR ONE QUARTER BLOCK;0VERTICAL ONE EIGHTH BLOCK-2;q3;q4;q5;q6;q7;
    0HORIZONTAL ONE EIGHTH BLOCK-2;s3;s4;s5;s6;s7;0LEFT AND LOWER ONE EIGHTH BLOCK;
    9UPPER ONE EIGHTH BLOCK;0RIGHT AND UPPER ONE EIGHTH BLOCK;aLOWER ONE EIGHTH BLOCK;
    0UPPER AND LOWER ONE EIGHTH BLOCK;0HORIZONTAL ONE EIGHTH BLOCK-1358;
    0UPPER ONE QUARTER BLOCK;6THREE EIGHTHS BLOCK;6FIVE EIGHTHS BLOCK;6THREE QUARTERS BLOCK;
    6SEVEN EIGHTHS BLOCK;0RIGHT ONE QUARTER BLOCK;6THREE EIGHTHS BLOCK;6FIVE EIGHTHS BLOCK;
    6THREE QUARTERS BLOCK;6SEVEN EIGHTHS BLOCK;0LEFT HALF MEDIUM SHADE;0RIGHT HALF MEDIUM SHADE;
    0UPPER HALF MEDIUM SHADE;0LOWER HALF MEDIUM SHADE;0INVERSE MEDIUM SHADE;
    0UPPER HALF BLOCK AND LOWER HALF INVERSE MEDIUM SHADE;
    bINVERSE MEDIUM SHADE AND LOWER HALF BLOCK;
    1FB94=0LEFT HALF INVERSE MEDIUM SHADE AND RIGHT HALF BLOCK;0CHECKER BOARD FILL;
    0INVERSE CHECKER BOARD FILL;0HEAVY HORIZONTAL FILL;0UPPER LEFT TO LOWER RIGHT FILL;
    6RIGHT TO LOWER LEFT FILL;6AND LOWER TRIANGULAR HALF BLOCK;
    0LEFT AND RIGHT TRIANGULAR HALF BLOCK;0UPPER LEFT TRIANGULAR MEDIUM SHADE;
    6RIGHT TRIANGULAR MEDIUM SHADE;0LOWER RIGHT TRIANGULAR MEDIUM SHADE;
    6LEFT TRIANGULAR MEDIUM SHADE;0BOX DRAWINGS LIGHT DIAGONAL UPPER CENTRE TO MIDDLE LEFT;
    PRIGHT;sMIDDLE LEFT TO LOWER CENTRE;zRIGHT TO LOWER CENTRE;
    sUPPER CENTRE TO MIDDLE LEFT TO LOWER CENTRE;PRIGHT TO LOWER CENTRE;
    sMIDDLE LEFT TO LOWER CENTRE TO MIDDLE RIGHT;HUPPER CENTRE TO MIDDLE RIGHT;
    sUPPER CENTRE TO MIDDLE LEFT AND MIDDLE RIGHT TO LOWER CENTRE;
    PRIGHT AND MIDDLE LEFT TO LOWER CENTRE;VTO LOWER CENTRE TO MIDDLE LEFT;
    PLEFT TO LOWER CENTRE TO MIDDLE RIGHT;
    sMIDDLE LEFT TO UPPER CENTRE TO MIDDLE RIGHT TO LOWER CENTRE;
    zRIGHT TO UPPER CENTRE TO MIDDLE LEFT TO LOWER CENTRE;sDIAMOND;
    jHORIZONTAL WITH VERTICAL STROKE;0ARROWHEAD-SHAPED POINTER;0INVERSE CHECK MARK;
    0LEFT HALF RUNNING MAN;0RIGHT HALF RUNNING MAN;0INVERSE DOWNWARDS ARROW WITH TIP LEFTWARDS;
    0LEFTWARDS ARROW AND UPPER AND LOWER ONE EIGHTH BLOCK;
    0RIGHTWARDS ARROW AND UPPER AND LOWER ONE EIGHTH BLOCK;
    0DOWNWARDS ARROW AND RIGHT ONE EIGHTH BLOCK;0UPWARDS ARROW AND RIGHT ONE EIGHTH BLOCK;
    0LEFT HALF FOLDER;0RIGHT HALF FOLDER;0VOIDED GREEK CROSS;0RIGHT OPEN SQUARED DOT;
    0NEGATIVE DIAGONAL CROSS;iMIDDLE RIGHT TO LOWER CENTRE;iDIAMOND;
    0WHITE HEAVY SALTIRE WITH ROUNDED CORNERS;0LEFT THIRD WHITE RIGHT POINTING INDEX;
    0MIDDLE THIRD WHITE RIGHT POINTING INDEX;0RIGHT THIRD WHITE RIGHT POINTING INDEX;
    0NEGATIVE SQUARED QUESTION MARK;0STICK FIGURE;c WITH ARMS RAISED;dLEANING LEFT;lRIGHT;
    dWITH DRESS;0WHITE UP-POINTING CHEVRON;1FBF0=0SEGMENTED DIGIT ZERO;gONE;gTWO;hHREE;gFOUR;
    hIVE;gSIX;hEVEN;gEIGHT;gNINE;2F800=0CJK COMPATIBILITY IDEOGRAPH-2F800;w1;w2;w3;w4;w5;w6;w7;
    w8;w9;wA;wB;wC;wD;wE;wF;v10;w1;w2;w3;w4;w5;w6;w7;w8;w9;wA;wB;wC;wD;wE;wF;v20;w1;w2;w3;w4;w5;
    w6;w7;w8;w9;wA;wB;wC;wD;wE;wF;v30;w1;w2;w3;w4;w5;w6;w7;w8;w9;wA;wB;wC;wD;wE;wF;v40;w1;w2;w3;
    w4;w5;w6;w7;w8;w9;wA;wB;wC;wD;wE;wF;v50;w1;w2;w3;w4;w5;w6;w7;w8;w9;wA;wB;wC;wD;wE;wF;v60;w1;
    w2;w3;w4;w5;w6;w7;w8;w9;wA;wB;wC;wD;wE;wF;v70;w1;w2;w3;w4;w5;w6;w7;w8;w9;wA;wB;wC;wD;wE;wF;
    v80;w1;w2;w3;w4;w5;w6;w7;w8;w9;wA;wB;wC;wD;wE;wF;v90;w1;w2;w3;w4;w5;w6;w7;w8;w9;wA;wB;wC;wD;
    wE;wF;vA0;w1;w2;w3;w4;w5;w6;w7;w8;w9;wA;wB;wC;wD;wE;wF;vB0;w1;w2;w3;w4;w5;w6;w7;w8;w9;wA;wB;
    wC;wD;wE;wF;vC0;w1;w2;w3;w4;w5;w6;w7;w8;w9;wA;wB;wC;wD;wE;wF;vD0;w1;w2;w3;w4;w5;w6;w7;w8;w9;
    wA;wB;wC;wD;wE;wF;vE0;w1;w2;w3;w4;w5;w6;w7;w8;w9;wA;wB;wC;wD;wE;wF;vF0;w1;w2;w3;w4;w5;w6;w7;
    w8;w9;wA;wB;wC;wD;wE;wF;u900;w1;w2;w3;w4;w5;w6;w7;w8;w9;wA;wB;wC;wD;wE;wF;v10;w1;w2;w3;w4;
    w5;w6;w7;w8;w9;wA;wB;wC;wD;wE;wF;v20;w1;w2;w3;w4;w5;w6;w7;w8;w9;wA;wB;wC;wD;wE;wF;v30;w1;w2;
    w3;w4;w5;w6;w7;w8;w9;wA;wB;wC;wD;wE;wF;v40;w1;w2;w3;w4;w5;w6;w7;w8;w9;wA;wB;wC;wD;wE;wF;v50;
    w1;w2;w3;w4;w5;w6;w7;w8;w9;wA;wB;wC;wD;wE;wF;v60;w1;w2;w3;w4;w5;w6;w7;w8;w9;wA;wB;wC;wD;wE;
    wF;v70;w1;w2;w3;w4;w5;w6;w7;w8;w9;wA;wB;wC;wD;wE;wF;v80;w1;w2;w3;w4;w5;w6;w7;w8;w9;wA;wB;wC;
    wD;wE;wF;v90;w1;w2;w3;w4;w5;w6;w7;w8;w9;wA;wB;wC;wD;wE;wF;vA0;w1;w2;w3;w4;w5;w6;w7;w8;w9;wA;
    wB;wC;wD;wE;wF;vB0;w1;w2;w3;w4;w5;w6;w7;w8;w9;wA;wB;wC;wD;wE;wF;vC0;w1;w2;w3;w4;w5;w6;w7;w8;
    w9;wA;wB;wC;wD;wE;wF;vD0;w1;w2;w3;w4;w5;w6;w7;w8;w9;wA;wB;wC;wD;wE;wF;vE0;w1;w2;w3;w4;w5;w6;
    w7;w8;w9;wA;wB;wC;wD;wE;wF;vF0;w1;w2;w3;w4;w5;w6;w7;w8;w9;wA;wB;wC;wD;wE;wF;uA00;w1;w2;w3;
    w4;w5;w6;w7;w8;w9;wA;wB;wC;wD;wE;wF;v10;w1;w2;w3;w4;w5;w6;w7;w8;w9;wA;wB;wC;wD;
    E0001=0LANGUAGE TAG;E0020=0TAG SPACE;4EXCLAMATION MARK;4QUOTATION MARK;4NUMBER SIGN;
    4DOLLAR SIGN;4PERCENT SIGN;4AMPERSAND;5POSTROPHE;4LEFT PARENTHESIS;4RIGHT PARENTHESIS;
    4ASTERISK;4PLUS SIGN;4COMMA;4HYPHEN-MINUS;4FULL STOP;4SOLIDUS;4DIGIT ZERO;aONE;aTWO;bHREE;
    aFOUR;bIVE;aSIX;bEVEN;aEIGHT;aNINE;4COLON;4SEMICOLON;4LESS-THAN SIGN;4EQUALS SIGN;
    4GREATER-THAN SIGN;4QUESTION MARK;4COMMERCIAL AT;4LATIN CAPITAL LETTER A;pB;pC;pD;pE;pF;pG;
    pH;pI;pJ;pK;pL;pM;pN;pO;pP;pQ;pR;pS;pT;pU;pV;pW;pX;pY;pZ;5EFT SQUARE BRACKET;
    4REVERSE SOLIDUS;5IGHT SQUARE BRACKET;4CIRCUMFLEX ACCENT;4LOW LINE;4GRAVE ACCENT;
    4LATIN SMALL LETTER A;nB;nC;nD;nE;nF;nG;nH;nI;nJ;nK;nL;nM;nN;nO;nP;nQ;nR;nS;nT;nU;nV;nW;nX;
    nY;nZ;5EFT CURLY BRACKET;4VERTICAL LINE;4RIGHT CURLY BRACKET;4TILDE;0CANCEL TAG;
    E0100=0VARIATION SELECTOR-17;k8;k9;j20;k1;k2;k3;k4;k5;k6;k7;k8;k9;j30;k1;k2;k3;k4;k5;k6;k7;
    k8;k9;j40;k1;k2;k3;k4;k5;k6;k7;k8;k9;j50;k1;k2;k3;k4;k5;k6;k7;k8;k9;j60;k1;k2;k3;k4;k5;k6;
    k7;k8;k9;j70;k1;k2;k3;k4;k5;k6;k7;k8;k9;j80;k1;k2;k3;k4;k5;k6;k7;k8;k9;j90;k1;k2;k3;k4;k5;
    k6;k7;k8;k9;j100;l1;l2;l3;l4;l5;l6;l7;l8;l9;k10;l1;l2;l3;l4;l5;l6;l7;l8;l9;k20;l1;l2;l3;l4;
    l5;l6;l7;l8;l9;k30;l1;l2;l3;l4;l5;l6;l7;l8;l9;k40;l1;l2;l3;l4;l5;l6;l7;l8;l9;k50;l1;l2;l3;
    l4;l5;l6;l7;l8;l9;k60;l1;l2;l3;l4;l5;l6;l7;l8;l9;k70;l1;l2;l3;l4;l5;l6;l7;l8;l9;k80;l1;l2;
    l3;l4;l5;l6;l7;l8;l9;k90;l1;l2;l3;l4;l5;l6;l7;l8;l9;j200;l1;l2;l3;l4;l5;l6;l7;l8;l9;k10;l1;
    l2;l3;l4;l5;l6;l7;l8;l9;k20;l1;l2;l3;l4;l5;l6;l7;l8;l9;k30;l1;l2;l3;l4;l5;l6;l7;l8;l9;k40;
    l1;l2;l3;l4;l5;l6;l7;l8;l9;k50;l1;l2;l3;l4;l5;l6"

/-- The further names of characters. -/
def furtherTable : String :=
  "0=0NULL;0=3;0START OF HEADING;1=1OH;1TART OF TEXT;2=2X;0END OF TEXT;3=1TX;
    1ND OF TRANSMISSION;4=1OT;1NQUIRY;5=3;0ACKNOWLEDGE;6=3;1LERT;7=0BEL;1ACKSPACE;8=1S;
    0CHARACTER TABULATION;9=0HORIZONTAL TABULATION;9=1T;9=0TAB;0LINE FEED;A=0NEW LINE;
    A=0END OF LINE;A=0LF;A=0NL;A=0EOL;0LINE TABULATION;B=0VERTICAL TABULATION;B=1T;0FORM FEED;
    C=1F;0CARRIAGE RETURN;D=1R;0SHIFT OUT;E=0LOCKING-SHIFT ONE;E=0SO;1HIFT IN;
    F=0LOCKING-SHIFT ZERO;F=0SI;0DATA LINK ESCAPE;10=1LE;1EVICE CONTROL ONE;11=1C1;
    1EVICE CONTROL TWO;12=1C2;1EVICE CONTROL THREE;13=1C3;1EVICE CONTROL FOUR;14=1C4;
    0NEGATIVE ACKNOWLEDGE;15=1AK;0SYNCHRONOUS IDLE;16=3;0END OF TRANSMISSION BLOCK;17=1TB;
    0CANCEL;18=3;0END OF MEDIUM;19=1OM;0SUBSTITUTE;1A=3;0ESCAPE;1B=3;
    0INFORMATION SEPARATOR FOUR;1C=0FILE SEPARATOR;1C=1S;0INFORMATION SEPARATOR THREE;
    1D=0GROUP SEPARATOR;1D=1S;0INFORMATION SEPARATOR TWO;1E=0RECORD SEPARATOR;1E=1S;
    0INFORMATION SEPARATOR ONE;1F=0UNIT SEPARATOR;1F=1S;0SP;7F=0DELETE;7F=3;0PADDING CHARACTER;
    80=3;0HIGH OCTET PRESET;81=1OP;0BREAK PERMITTED HERE;82=1PH;0NO BREAK HERE;83=1BH;0INDEX;
    84=3;0NEXT LINE;85=2L;0START OF SELECTED AREA;86=1SA;0END OF SELECTED AREA;87=1SA;
    0CHARACTER TABULATION SET;88=0HORIZONTAL TABULATION SET;88=1TS;
    0CHARACTER TABULATION WITH JUSTIFICATION;89=0HORIZONTAL TABULATION WITH JUSTIFICATION;
    89=1TJ;0LINE TABULATION SET;8A=0VERTICAL TABULATION SET;8A=1TS;0PARTIAL LINE FORWARD;
    8B=dDOWN;8B=1LD;1ARTIAL LINE BACKWARD;8C=dUP;8C=1LU;0REVERSE LINE FEED;8D=8INDEX;8D=1I;
    0SINGLE SHIFT TWO;8E=6-SHIFT-2;8E=1S2;1INGLE SHIFT THREE;8F=6-SHIFT-3;8F=1S3;
    0DEVICE CONTROL STRING;90=1CS;0PRIVATE USE ONE;91=b-1;91=1U1;1RIVATE USE TWO;92=b-2;92=1U2;
    0SET TRANSMIT STATE;93=1TS;0CANCEL CHARACTER;94=1CH;0MESSAGE WAITING;95=1W;
    0START OF GUARDED AREA;96=9PROTECTED AREA;96=1PA;0END OF GUARDED AREA;97=7PROTECTED AREA;
    97=1PA;0START OF STRING;98=1OS;1INGLE GRAPHIC CHARACTER INTRODUCER;99=1GC;
    1INGLE CHARACTER INTRODUCER;9A=1CI;0CONTROL SEQUENCE INTRODUCER;9B=1SI;0STRING TERMINATOR;
    9C=2;0OPERATING SYSTEM COMMAND;9D=1SC;0PRIVACY MESSAGE;9E=1M;0APPLICATION PROGRAM COMMAND;
    9F=2C;0NBSP;AD=0SHY;1A2=0LATIN CAPITAL LETTER GHA;6SMALL LETTER GHA;34F=0CGJ;61C=0ALM;
    709=0SYRIAC SUBLINEAR COLON SKEWED LEFT;CDE=0KANNADA LETTER LLLA;E9D=0LAO LETTER FO FON;
    E9F=fAY;EA3=bRO;EA5=bLO;FD0=0TIBETAN MARK BKA- SHOG GI MGO RGYAN;
    11EC=0HANGUL JONGSEONG YESIEUNG-KIYEOK;qSSANGKIYEOK;hSSANGYESIEUNG;hYESIEUNG-KHIEUKH;
    180B=0FVS1;32;33;0MVS;0FVS4;200B=0ZWSP;2NJ;2J;0LRM;0RLM;202A=0LRE;0RLE;0PDF;0LRO;0RLO;
    0NNBSP;205F=0MMSP;0WJ;2066=0LRI;0RLI;0FSI;0PDI;2118=0WEIERSTRASS ELLIPTIC FUNCTION;
    2448=0MICR ON US SYMBOL;5DASH SYMBOL;
    2B7A=0LEFTWARDS TRIANGLE-HEADED ARROW WITH DOUBLE VERTICAL STROKE;
    2B7C=0RIGHTWARDS TRIANGLE-HEADED ARROW WITH DOUBLE VERTICAL STROKE;
    A015=0YI SYLLABLE ITERATION MARK;AA6E=0MYANMAR LETTER KHAMTI LLA;
    FE18=0PRESENTATION FORM FOR VERTICAL RIGHT WHITE LENTICULAR BRACKET;FEFF=0BYTE ORDER MARK;
    FEFF=1OM;FEFF=0ZWNBSP;122D4=0CUNEIFORM SIGN NU11 TENU;kOVER NU11 BUR OVER BUR;
    16E56=0MEDEFAIDRIN CAPITAL LETTER H;rNG;16E76=cSMALL LETTER H;pNG;
    1B001=0HENTAIGANA LETTER E-1;1D0C5=0BYZANTINE MUSICAL SYMBOL FTHORA SKLIRON CHROMA VASIS"

/-! ## Reading the tables -/

/-- The value of the digit that tells how much of a name is shared. -/
def sharedLength (c : Char) : Nat :=
  if c.isDigit then c.toNat - '0'.toNat
  else if c.isLower then c.toNat - 'a'.toNat + 10
  else c.toNat - 'A'.toNat + 36

/-- A code point and its name. -/
structure Entry where
  code : Nat
  name : List Char

/-- Reads an entry that follows another one. -/
def Entry.next (before : Entry) (text : List Char) : Entry :=
  let text := text.dropWhile fun c => c = ' ' ∨ c = '\n'
  let (code, text) :=
    if text.contains '=' then
      let (code, rest) := CodeTable.hexNumber 0 text
      (code, rest.drop 1)
    else (before.code + 1, text)
  match text with
  | shared :: rest => ⟨code, before.name.take (sharedLength shared) ++ rest⟩
  | [] => ⟨code, []⟩

/-- Looks for a name among entries that follow another one. -/
def search (name : List Char) (before : Entry) : List (List Char) → Option Nat
  | [] => none
  | text :: rest =>
    let entry := before.next text
    if entry.name = name then some entry.code else search name entry rest

/-- The code point of a name in a table. -/
def find? (table : String) (name : List Char) : Option Nat :=
  search name ⟨0, []⟩ (table.toList.splitOn ';')

/-! ## Names that follow from the code point -/

/-- The parts of the names of Hangul syllables that stand for their initial sounds. -/
def initials : List String :=
  ["G", "GG", "N", "D", "DD", "R", "M", "B", "BB", "S", "SS", "", "J", "JJ", "C", "K", "T", "P", "H"]

/-- The parts that stand for their vowels. -/
def vowels : List String :=
  ["A", "AE", "YA", "YAE", "EO", "E", "YEO", "YE", "O", "WA", "WAE", "OE", "YO", "U", "WEO", "WE",
    "WI", "YU", "EU", "YI", "I"]

/-- The parts that stand for their final sounds. -/
def finals : List String :=
  ["", "G", "GG", "GS", "N", "NJ", "NH", "D", "L", "LG", "LM", "LB", "LS", "LT", "LP", "LH", "M",
    "B", "BS", "S", "SS", "NG", "J", "C", "K", "T", "P", "H"]

/-- Whether a text begins with another one. -/
def startsWith (cs start : List Char) : Bool := cs.take start.length == start

/-- The longest part with which a text begins, by its place, and what follows. -/
def splitPart (parts : List String) (cs : List Char) : Option (Nat × List Char) :=
  let fits := (parts.zipIdx).filter fun p => startsWith cs p.1.toList
  (fits.foldl
    (fun best p => match best with
      | some (q : String × Nat) => if q.1.length < p.1.length then some p else best
      | none => some p)
    none).map fun p => (p.2, cs.drop p.1.length)

/-- The Hangul syllable that is spelled by the end of its name. -/
def syllable? (cs : List Char) : Option Nat := do
  let (initial, cs) ← splitPart initials cs
  let (vowel, cs) ← splitPart vowels cs
  let (last, cs) ← splitPart finals cs
  if cs.isEmpty then some (0xAC00 + (21 * initial + vowel) * 28 + last) else none

/-- Whether a code point is that of a unified ideograph. -/
def isIdeograph (code : Nat) : Bool :=
  [(0x3400, 0x4DBF), (0x4E00, 0x9FFF), (0x20000, 0x2A6DF), (0x2A700, 0x2B738), (0x2B740, 0x2B81D),
    (0x2B820, 0x2CEA1), (0x2CEB0, 0x2EBE0), (0x30000, 0x3134A)].any
    fun r => r.1 ≤ code && code ≤ r.2

/-- The unified ideograph whose code point is written out at the end of its name. -/
def ideograph? (cs : List Char) : Option Nat :=
  if cs.length = 4 ∨ cs.length = 5 then
    match CodeTable.hexNumber 0 cs with
    | (code, []) => if isIdeograph code then some code else none
    | _ => none
  else none

/-- A name that consists of the letters `VS` and a number, without leading zeros, stands for the
variation selector of that number. -/
def variation? (cs : List Char) : Option Nat :=
  if cs.isEmpty || cs.length > 3 || !cs.all Char.isDigit || cs.head? == some '0' then none
  else
    let n := cs.foldl (fun n c => 10 * n + (c.toNat - '0'.toNat)) 0
    if n ≤ 16 then some (0xFE00 + (n - 1)) else if n ≤ 256 then some (0xE0100 + (n - 17)) else none

/-! ## Looking a name up -/

/-- The code point of the character with the given name.  Names may be given in small letters,
except those that follow from the code point. -/
def lookUp? (name : String) : Option Nat :=
  let cs := name.toList
  let hangul := "HANGUL SYLLABLE ".toList
  let ideograph := "CJK UNIFIED IDEOGRAPH-".toList
  if startsWith cs hangul then syllable? (cs.drop hangul.length)
  else if startsWith cs ideograph then ideograph? (cs.drop ideograph.length)
  else
    let capitals := cs.map Char.toUpper
    let selector := if startsWith capitals ['V', 'S'] then variation? (capitals.drop 2) else none
    selector <|> find? mainTable capitals <|> find? furtherTable capitals

end CharacterName

end FeatureFlags

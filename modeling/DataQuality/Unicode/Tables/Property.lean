/-!
# Tables of binary properties

For each binary property of the character database that patterns can name, the code points that
have it, as pairs `gap, span`.  The data is that of Unicode 16.0.
-/

namespace DataQuality.Unicode.Tables

/-- The code points with the property ASCII Hex Digit. -/
def asciiHexDigit : String := "cJ975V5"

/-- The code points with the property Alphabetic. -/
def alphabetic : String := "d1T6TcH0B0405Q1~1s94CG47010dQ0cB41123106012101M1dL1gB8h51c5206c8c7F101111108V43ZB5cR16Gf5174742B220J
cHFf4Sc091405R2LMS7B5R15Kc9BC366dC1H124GFL17212P16103337212110804114D1B04215412P16111111444121407310
K5C218121P16111438121130H3P34217212P161114372121914114F0J115321331101131323C4432123060c8D121Q1H37121
281122023X317121Q1914371212816113F2DD121c8271212105374Q5121K3R181026851017L1FcT5660cM110141R101L1224
1060G3c00c^71c34L4H1c3d3cQ1024Jc^B32c510502cB1nD132610132c8132c0132610132G1cS132d2c5HJdP253zC2J1T5dB
3B7MCNDMDD1211DcM2LG040d3dS7cB5d5B~1C48RZ24CcC4TcQW4c~2McL0R1C2cKcM1G17cMc923BcC1BGcQQ2Bc32B5cB22c93
1511305h^c7FClP252c525271010101~2cN1610321633254D5216fN0F0JDf5040291034601010131B235440Kc8.FcMc+Qk46
331Dc510502cR70JQ96161616161616161^cH0sP2T874244dP621dT135cB1dZK^cJHv0jr^d0%!Dd3cF2lD3HB1NcG573fJc78
2f62d2211017PM1c0ScMDd310cD53012Bc05c2FX3cL1CH0JHB41cQ9FLQ3d41010S22H23C5252596161cB1F6fVPn=3DQ4cJll
4pF2f9c66D45C1D141011111fCc1pBLc^2cPc8CfN41g6c4T6TCdS35252522c3C1T1L111G2Fc2fVd5cNlCX3cJcH^FZ5cB5Z2c
34714cBgZLc34c34c78cMDB1G16111B1G16113cMDmQ9PB7S51c918d55201cC11302QBQ9~d1L11BPBTd6cR61d031157121XcB
X3Xc371WWcPBPBLFKfGd8cRcLFcLFc7c2W305QkVc91131J2cWXB08PcBKcGNWQ9d5cC4BcS90FSRcLK38c2309c^1391B010c3K
1c12063c~610131G197cSR317212P161114372121306056X910201c519102013113010cDd11213N2~d12110hScP26T5c2c~1
030cWcP20d7V2FP6hTcSf7c^^72027111Z112123dZ72cF251011WcL29Kd750Ld8j7c0^81cD1610cKZ2P1Fd96111cC3011121
021S5111c4111310n7Q9J1c832fH0dH<Tf6fGKj3dxDf0HccHK5Tf<V5x6j%TcDc&MwS7~KdGKZLcHJ3^N5LrJcDjMc^g0dB4cS7
Jd0110D1Gh?R8cjPc99l*7316111m2H0Z220G38qCdl4fB5D387940h;1dN1d6112021231C10161d01327161W131410361nM2S
1S1~1S1~1S1~1S1~1S17c.N~65jP61J2611145cZc10fJcDB6J0n1ZLcCt4Wk4Z20tH613111G1j4cWd33030chN31V111020191
3101060401010121110201010101011102316131310191J52141JzNT6T6TfzQcm&^c0gcT6jZ2h!1GkmJHzFdr2vZct2g:B5gd
^"

/-- The code points with the property Bidi Control. -/
def bidiControl : String := "cvX0jtK1V4cR3"

/-- The code points with the property Bidi Mirrored. -/
def bidiMirrored : String := "c81L010X010Z010cF0H0fz~3c:Z1dqX1B1cQ1G1hK0j033530313313101048501K539110172~2350912L5194214R2H83N171c
cZFdB023111253523FqMP251F807530441124401221B521DL13201020135162S1C14311214cB271c750103452403410l00v3
33111G129cC7rC927czwZ551h21L010X010Z0101111c%;R0cT0cT0cT0cT0"

/-- The code points with the property Case Ignorable. -/
def caseIgnorable : String := "c7060C0c3010d7040104021tRh^41409110kW6jH050cKcD10111110cD0C5BB10c30BNJ0f571913c1010~VdWBcVB4020SRcC2
cD07158c9cTcR010474036B1F0H0cV04380N1V021cT041412230~130C1cT0441140N1Q510cV020138071C1~0cZ0D0cL030cR
012521371C1Z0cV0206051N1X1cT14380N1Z0d807210dV026C8f20289016d91W01010cRF14115B1c390f63151121T142J3F0
2160H0d~0z02=L2Z1~1~1d0116802B3050cF4cM0d11c20fQ2419062jW120cV0161010276920c708~cK3cJ0141050c88D1c03
2112cS0113012cV721d05dL21D16406031cLc~F0c2f4rZ012C2F2F2F1D481B02024cK41910F0JDcMc0d<C1fK2fZ0H0f0^cH0
sP0c433450dZ5dZ2;+Q0ck25lG0f231910X3dJ1Gc1dG0R2f7231803040T150gR1VKF0c67TBcG2cJ02321K0P1d252121D080c
30C0cM012215110W0G15110f4492fT02040z.J0gMJwZH30DHc2020h907060C0c3010cH0cF1d30P2v10k20gP4cb551c918x62
1153c8240h51wZ3c60V410mW1dH3d6BcK3fW0cQGc9021B2cK3212040B0cL2c4417c~0D1cN8B320d^220116020gZ037P1cT13
0c5634d65F01010G1dP72210R0dN5104111kG36111W1dP72011fB0102510f522314l3811l011040gJ32140c09c8523809522
cGD11qQ61510dLP261111fV530111610d813010nW1C1cN45010R0hjPJ6Gpj8C32ds04cW693tX2c81t20c^Jd0111vbC31611f
g~113gxXcF2Qw029H26~3gN2c=WcQ4cK80G0Q41GcnJ61J2611145cZc10h0FpJ0cZ3tW4k~1*06fF7d%H4+fb10~d^g0kH"

/-- The code points with the property Cased. -/
def cased : String := "d1T6TcH0B0405Q1~1j2134jH1c371~4f00cB32123106012101M1dL1gB8h51c59c8d+Rc510502cB13%0dP25dg2B5cB22d0h^d
0lP252c525271010101~2cN1610321633254D5216fN0F0JDf5040291034601010131540235440K^31.KcMc+Qk46331Dc5105
0>lLcFLZg4f5331cZ211017P412.PcB1F6dHz:06D4cb9T6Tch5dHf0c34c3fNB1G16111B1G1611s30221c918cj5cLFcLdZPBP
d+Vc^%p0c^.q0dN1d6112021231C10161d01327161W131410361nM2S1S1~1S1~1S1~1S1~1S17c.N91M65l5cZdgLd3c?DT6T6
T"

/-- The code points with the property Changes When Casefolded. -/
def changesWhenCasefolded : String := "d1TdV0BQ17c00101010101010101010101010101010101010101010101010101010201010101010101011101010101010101
0101010101010101010101010101011101010111011122311123111101011102011121011307111111010101010101010201
01010101010101021101210101010101010101010101010101010101010101010101010101010107111201310101010kQ0cB
0103080601210111J18Q0D231101010101010101010101010112110112cLcJ01010101010101010101010101010101090101
0101010101010101010101010101010101010101010101010111010101010102010101010101010101010101010101010101
010101010101010101010101010101010101010101010101010101010102c5cJ0d+Sc51050.B5dg296cB22n0010101010101
0101010101010101010101010101010101010101010101010101010101010101010101010101010101010101010101010101
0101010101010101010101010101010101010512010101010101010101010101010101010101010101010101010101010101
01010101010101010101010101010101010109785B78785C010101087JcH22255225C3D45225m903160cFHM0.LTc.JcHcJ01
2201010131020821010101010101010101010101010101010101010101010101010101010101010101010101010101010101
0101010101010801040>nF010101010101010101010101010101010101010101010M010101010101010101010101010g7010
101010101030101010101010101010101010101010101010101010101010101010101010B010111010101040102010301010
101010101010101414101010101010101310113050101010S0;VdHz:06D4cb9Tcj5c7g8c3gXB1G1611c*BcLgZPd.V^%q0^>%
0c1"

/-- The code points with the property Changes When Casemapped. -/
def changesWhenCasemapped : String := "d1T6TcV0BQ1~1c^1dM1W2F21104dX1K6V1110113113142011207020113550B1h60cB32132106012101M1cG3c0141g48h51c5
Bc6d+Sc510502cB22%0dP25dg2B5cB22hT030J0fKgW201fP252c525271010101~2cN1610321633254D5216m903160W0K^31.
KcMc+QfJ11117f57331Dc51050>lLcFLWg6F2cZ9G32241S1Z2146S1:X0XdHz:06D4cb9T6Tch5dHf0c34c3fNB1G16111B1G16
11c&3cLFcLdZPBPd+Vc^%p0c^>!0d3"

/-- The code points with the property Changes When Lowercased. -/
def changesWhenLowercased : String := "d1Tf5Q16c1010101010101010101010101010101010101010101010101010101020101010101010102010101010101010101
0101010101010101010101010101110103110111223111231111010111020111210113071111110101010101010102010101
0101010101021101210101010101010101010101010101010101010101010101010101010107111201310101010m10103080
601210111J18c308010101010101010101010105020112cLcJ01010101010101010101010101010101090101010101010101
0101010101010101010101010101010101010111010101010102010101010101010101010101010101010101010101010101
010101010101010101010101010101010101010101010102c5d:9c51050&LdPdgM06cB22n001010101010101010101010101
0101010101010101010101010101010101010101010101010101010101010101010101010101010101010101010101010101
0101010101010101010101090101010101010101010101010101010101010101010101010101010101010101010101010101
0101010101010101010109785B78785C010101087S7878784C4C3D4C4m903160cFHM0.LTc.JcHcJ012201010131020821010
1010101010101010101010101010101010101010101010101010101010101010101010101010101010101010101010801040
>nF010101010101010101010101010101010101010101010M010101010101010101010101010g70101010101010301010101
01010101010101010101010101010101010101010101010101010B0101110101010401020103010101010101010101014141
01010101010101310113050101010S0%.CTcj5c7g8c3gXB1G1611c*BcLgZPd.V^%q0^>%0c1"

/-- The code points with the property Changes When Titlecased. -/
def changesWhenTitlecased : String := "f1TcV0c9R1710101010101010101010101010101010101010101010101010101010201010101010101110101010101010101
0101010101010101010101010101020101220102030502032202010102040203010203010401111101010101010101011101
0101010101010121010301010101010101010101010101010101010101030101010101010101080211040101010151110113
113142011207020113550B1h60cC0103032L0Wc21132101010101010101010101014102020cNcH1010101010101010101010
1010101010109010101010101010101010101010101010101010101010101010102010101010101110101010101010101010
1010101010101010101010101010101010101010101010101010101010101010101010101010cKc6fzJ5dg2810kG030J0fL0
1010101010101010101010101010101010101010101010101010101010101010101010101010101010101010101010101010
1010101010101010101010101010101010101010101010165010101010101010101010101010101010101010101010101010
1010101010101010101010101010101010101010101885B78785B7878F2787878411603211832187B211nQ0c1H40:CTc:6cH
10311010106020B0101010101010101010101010101010101010101010101010101010101010101010101010101010101010
10101010101010801040Dc51050>lM010101010101010101010101010101010101010101010M010101010101010101010101
010g7010101010101030101010101010101010101010101010101010101010101010101010101010B0102010101010404011
20101010101010101010C01010101010101040102030501010V0:X0XdHz:06D4cc9TcjFc7g8c3gWB1G1611c+3cLfZPd.V^%q
0^>%2c1"

/-- The code points with the property Changes When Uppercased. -/
def changesWhenUppercased : String := "f1TcV0c9R1710101010101010101010101010101010101010101010101010101010201010101010101110101010101010101
0101010101010101010101010101020101220102030502032202010102040203010203010511111101010101010101110101
0101010101011111030101010101010101010101010101010101010103010101010101010108021104010101015111011311
3142011207020113550B1h60cC0103032L0Wc21132101010101010101010101014102020cNcH101010101010101010101010
1010101010901010101010101010101010101010101010101010101010101010201010101010111010101010101010101010
10101010101010101010101010101010101010101010101010101010101010101010101010cKc6d:8cB22*S5dg2810kG030J
0fL0101010101010101010101010101010101010101010101010101010101010101010101010101010101010101010101010
1010101010101010101010101010101010101010101010101016501010101010101010101010101010101010101010101010
10101010101010101010101010101010101010101010101885B78785B7878F2cN114010321140332187B21140nK0c1H40:CT
c:6cH10311010106020B01010101010101010101010101010101010101010101010101010101010101010101010101010101
0101010101010101010801040Dc51050>lM010101010101010101010101010101010101010101010M0101010101010101010
10101010g7010101010101030101010101010101010101010101010101010101010101010101010101010B01020101010104
0401120101010101010101010C01010101010101040102030501010V0:X0XdHz:06D4cc9TcjFc7g8c3gWB1G1611c+3cLfZPd
.V^%q0^>%2c1"

/-- The code points with the property Dash. -/
def dash : String := "cF0cnX0cM0fx10cb50db95cZ0c70H0q60fb4020^140X0r~0M0fH0czqJ1c50B0h90fz00m~0"

/-- The code points with the property Default Ignorable Code Point. -/
def defaultIgnorableCodePoint : String := "hF0%10&D0d:21cxM1dP4c?W4V4cKHgkN0czgWHkH0h00dH8cth73hjH7+p!5f?^"

/-- The code points with the property Deprecated. -/
def deprecated : String := "n90cm90dl3010dc91dj55%T1;*jQ0"

/-- The code points with the property Diacritic. -/
def diacritic : String := "d~010d70604021tRg~1755K14091kZ4jK0cRJ1V101110g6741g614132d3VdWBcVBc21f~7c99JWcZ0J033X0dB0J0fG0J0fG0J
0cH2cX0J070fR0fG0J0fG0J0fF1J0fX0fX510fC0F4dC1W0101041d2211c~0fJ011c8144T610B1&12=N1hMB90nW2mT720cJG2
Bf80H0c68cQ1gB1d05dLS406022cLc~dTCc5BrZ012C2F2F2F1fkJ2mZ0tV5f93d^0=pL0D110X1dL1Gc1f62fF1jB0WKcT3c40d
^0D0c40gP2d13cM0f4492g01z.J0+1HlG010cH0cF1d30*X0cg^51c918.B1wW5sP2d6BcK3j00c90d81fS1c~0dD092f81hL1dK
0J0S634jF030fW1kW1f~0fQ1fM0lF1l2140gX0dM0L0dK0r50l2011dK0h%HGr!V4cW6cdSJdJ1t?~31611k+1cF2Qw02358726~
3f!2cZj26pR0cZ3ct06fF212"

/-- The code points with the property Emoji. -/
def emoji : String := "c306059fH040k<F0D0jS0Q0dV5H1pH1D0h60TB42j70k71B090cV314902021204020112030318250105CC1201110L021L5101
131502141C15120511011N155132040202510201010603060B1H02040104210C1cJ290G0G0pN1sH2M1cM040cjV0D0xT010ft
pB0jB0h01D1G029dCT11R0N028P1hGc12fH21122dL221l61c~C51R7127D0232041F120819052D28220104060306dPcJd5572
24930113029k3C40lWcG191hSfJD395cR7G2B68"

/-- The code points with the property Emoji Component. -/
def emojiComponent : String := "c306059k>M0jP0c*mC0c<>QTtW4crJ3+czDd^"

/-- The code points with the property Emoji Modifier. -/
def emojiModifier : String := "f<?W4"

/-- The code points with the property Emoji Modifier Base. -/
def emojiModifierBase : String := "mvZ0jW0J3fzfR0cX22022fP12BPL3042127010S0j9140P041hG234dM0J290C0w^02087609922cS0cZ11110K21Dk52cB8"

/-- The code points with the property Emoji Presentation. -/
def emojiPresentation : String := "l+V1jF33020v91P1cLCcC0M0F081K1518050P0711040207041X0c30104210cZ2S0G0:W1cM040fwhG0jB0h~029dCT10S0N024
12P1hGc0D81d51PDcB44DJ303d6101hV2c~F31RL0V1F0dQdNcJd560322243C178k3C40lWcG191hSfJD395cR7G2B68"

/-- The code points with the property Extended Pictographic. -/
def extendedPictographic : String := "h9040k<F0D0jS0Q0dV5H1pH1D0d^0d60TB42j70k71B090cV3151C1fKBfP2B1010603060B1H02040104210C4cF290G0G0pN1s
H2M1cM040cjV0D0xT010ftp6k^F2^0cX5D1G029LcSWGB0N028139rK5mZ8l9cJf^fNCdPcBD3cS7B5c87~dKDcG191rSl0?Z"

/-- The code points with the property Extender. -/
def extender : String := "hR0vS1;G0rT0:V0*J0f^0dn30cS0z30qG0d40g<90cC4f71dZ2;+Q0ctQ0>20Q0g90fD0P1%fW0dbJ1d>V0z82cjH0!h91cgX110
<nS1db62"

/-- The code points with the property Grapheme Base. -/
def graphemeBase : String := "c0d~c1D1xKfJ72546101M1j^7h51c52cK22cG01020209V45K9C01cFPH1f48061204^201ZZdSC0GcB963R4090307G1S501B5~
Kc9cTcQ10138312792X1117212P1610333011612110F1124R5015412P1611111142S310792210D018121P16111433801130H
14C708117212P16111430206121H1124KC015321331101131323C5011321230PN6217121Q1H3033M2202149791B121Q19143
111112111K1114912GB121c8201152121142194T211K3R18102691667922DcH11C78Dc5110141R1019119024109923c0R2V1
0101F1c3L05024cK7151Dc5cD4060212S233H4D11251G1c710502pS132610132c8132c0132610132G1cS132d25X3T6dP252!
X3dS7K309L229KGD12HcM207711C839696B596dS742c1105d5B~43224115703c924CcC4T6B3cS213cR10901185F9696FdQcH
7014191X9C2^41203cR102210318cH815G3cZ5cB2BC0F0731512205h^d0lP252c525271010101~2cN1G1F251L22181B5R7cJ
J12V1D3c0c^gC4!TQBPc+M2^1nR315cD10502cR71HQ9616161616161616c1dZc2T1dSDjPVcT6H1dP4f45cB1dZ1dP9cH1<zD3
cQ9nWNcG40B^2dH258jF211017PH12131S24496cR8d3BCSD1c58SC1CZ6cH11412H1B461S1c86121C21710292^1cL10312420
10SJ27C5252596161cW4fN1113396n=3DQ4cJll4pF2f9c66D4501R141011111fXJrX2cP70c0HJ9Qc21L13441g64gX2~35252
5223616F12C1T1L111G2Fc2fV524cD3dR1D30cHcDg3X3cJJV4c39Z5c5BZ1c44FcBgZ296c34c34c78cMCC1G16111B1G16113c
MDmQ9PB7S51c918d55201cC11302Q1d788cJL115c03V50d0cR4M2cGH3121XB8787c^c0c46C9cP3X2V5T73D6dJd8cRcLFcL7c
9D96c58R81jJ~1c93021J2cWc78PC8QK43c6WNQ901cPH64Z1120DcJ412113GS799c3509K8c212CcM99411H1MCK1W31102511
c^610131G1B6cG12F98117212P161114301013212220D6X910201c5137020131110101211c7cR81301N1012~cH1160111020
2389h6cG1163202Vc4cL811023C96DMcB10116011696MXV51409QhTcG9020f4dLD72027111R141140131299d672c98313W0B
c7614790613cFF028Fd879hQc1G9681c5G015BX3^T07020dC6111c5P09965111c441101079mQL239G1c381101QdQ0HcKF<Vf
6fG14Cj3dxDf2FccHK5Tf<V5x6j%TZD239c&6wS7~194dJ196Z70BcH7GB9161N5LrJcTj6dVf5dB5cRCDd03D1Gh?R8cjPc99l*
7316111m2H0Z220G38qCdl4fB5D38792020f;0kT6rMgXfMcXkPBc62cW1033P17Z4cXPd130fVMDMDdQ9Sg7dN1d6112021231C
10161d01327161W131410361nM2m32wKcR3cL71F16cfN~65l5cZgLcDB62941n0ZLcC4950sJW49jQZ2B40t0613111G1j428cJ
d3704941+Kd3dDcXj231V1110201913101060401010121110201010101011102316131310191J52141JcN1lGcC4f3DG2G1G1
c4BhFcSXFcC4871G5gV>R4J3D3fQ4d~6C40HC4cR896c78Z2C41c~nMDF2D395cR7G2B687gL1f5cb6cm&^c0gcT6jZ2h!1GkmJH
zFdr2vZct2g:B5gd^"

/-- The code points with the property Grapheme Extend. -/
def graphemeExtend : String := "+0fHlM6l7cD10111110d8BcJNJ0f56252113c30~VdWBcV890S3181214cC2cW8cBR1^cR010474036B1Z0cV010238090B1V021
cT041412230~130C1cT0441140N1Q510cV011138072B1~0cW010D090c8030cR012521371C1Z0cV02020305171C1X1cT11023
8090B1Z0d8040221080dK026D7f2028C6d91W01010cRF14115B1c390f63151121T142J3F02160H0%^2=L2Z1~1~1d0116802B
90cF210fP1c20fQ2419062jW120cV0161010276920cJ~cK3cJ61050c88D1c032112cS0113012cV721gS21D16406031j6c^vD
0j3c0d?~2gF0f0^wB5f91=sN319c01dJ1lJ03040T150gR1VKF0c67TBcG2cJ02321c70d352121D080cH0cM012215110cB180k
G02040z.J0*1HJHpG1xZ0k20gP4c!621153c8240h51wZ3d14mZ1dH3d6BcK3fW0cQGc9021B2cK32170cZ2c4417c~0D1cN8B32
0d^220116020gZ037P1cT11010Q0G634d65F01010G1dP72210R0dK02510201111kC0236111W1dP72011fB0102510f522314l
3811kP0B11040gJ32140c09c8523809522cGD11qQ61510dLP261111fV530111610d813010nW1C1cN45010R0hk506Gpj8C32d
s04cW6cbS0c^3dK0zhS1gz1cF2Qv~012448726~3gN2c=WcQ4cK80G0Q41GcnJ61J261114f40h06pR0cZ3tX3k~1*06fF6+h&Pd
^g0kH"

/-- The code points with the property Hex Digit. -/
def hexDigit : String := "cJ975V5c?%9975V5"

/-- The code points with the property IDS Binary Operator. -/
def idsBinaryOperator : String := "p?J129tK0"

/-- The code points with the property IDS Trinary Operator. -/
def idsTrinaryOperator : String := "p?L1"

/-- The code points with the property IDS Unary Operator. -/
def idsUnaryOperator : String := "p?~1"

/-- The code points with the property ID Compat Math Continue. -/
def idCompatMathContinue : String := "hL150k=Q03B1GpM040Q0frh20T0^0T0^0T0^0T0^0T0"

/-- The code points with the property ID Compat Math Start. -/
def idCompatMathStart : String := "lv2040Q0frh20T0^0T0^0T0^0T0^0T0"

/-- The code points with the property ID Continue. -/
def idContinue : String := "cJ97T401TcH0B010205Q1~1s94CG47010KfN11231064101M1dL1gB142h51c5206c88cD101111108V43ZB5d94f517291L20Jc
V2f4GcP40202cFLW4B5R158dB1g0291L17212P1610332821238041142CB0102215412P16111111201441223073107HC21812
1P16111429121220H329961217212P1611142821227241142910J115321331101131323C4432132060G9JD121Q1H28121371
12202329J317121Q19142812137161132912DD121cL1214537429B5121K3R181026304510176921FcT5G19c7110141R101Q2
410161923c00R169C01010491c34M1K1c390cTd96dF2c510502cB1nD132610132c8132c0132610132G1cS132d22298GHJdP2
53zC2J1T5dB3B7P9PCMDD1211DdM304129c121B6dS7cB5d5B~1C4CBc724CcC4T6Bc5W4c~1X2B69F08F1HcKdD39K8DfMDcR89
3cJ2B5cB22J21c65vP252c525271010101~2cN1610321633254D5216d21M0X0F0JDcMD403CK0402910256010101H235440Kc
8dzRk468Dc510502cR70HR96161616161616161^v52TG14244dP261dT135cB1dZK^cJHv0jr^d0%!Dd3cF2lD3WNcH491fLc58
2f62d2211017PcP40McMDd5B96R301cJ2c3DX3d0GB6~1cQ9F296Q3d8S22H24B5252596161cB1F6fV11296n=3DQ4cJll4pF2f
9c66D45C1D141011111fCc1pBLc^2cPc8C4HJH31S2c041g6M97T401TCdS35252522c3C1T1L111G2Fc2fVd5cNg80g2X3cJH0^
^FZ5cB5Z2c34714cBgZ296c34c34c78cMDB1G16111B1G16113cMDmQ9PB7S51c918d55201cC11302QBQ9~d1L11BPBTd6cR61d
031157121X2240c0X3Xc371ZTcPBPBLFKfGd8cRcLFcLFc7896c5341QkVc91131J2cRc0B08c0^PcBNWQ9d6^H9cW70FS796cN1
9438c3209d4431D10c3K1c463c~610131G197cV596317212P1611141921222060562634C910201c51910201317F1ZdB5943~
d51089h6cP28R5c2d030C9c6cS796MXV2G4966hTcVf5d9P72027111Z1128D9d672cF2711Wc~808d930Ld8j7c0H9681cD18H9
SZ2P1Fd96111cC3011188965111c4111579mQQ9J1c834FBdP0dH<Tf6fGKj3dxDf0HccHJPBf<V5x6j%TcTc&6wS7~196dG196Z
24CcQ93D99N5LrJcD39j6c^g0dB4cS7Jd0111C1Gh?R8cjPc99l*7316111m2H0Z220G38qCdl4fB5D387931gdK9v6cF2Qv~435
8726~3gN2rWdN1d6112021231C10161d01327161W131410361nM2S1S1~1S1~1S1~1S1~1S172cKv0cQ4cK80G0Q41GcdJ~65jP
61J2611145cZc10fJcD3F2940n1~KcTsQc9jQcBt5613111G1j4C6c9dC49ch631V11102019131010604010101211102010101
01011102316131310191J52141JfmN9cb6cm&^c0gcT6jZ2h!1GkmJHzFdr2vZct2g:B5gd^%*nJkH"

/-- The code points with the property ID Start. -/
def idStart : String := "d1T6TcH0B0405Q1~1s94CG47010g141123106012101M1dL1gB8h51c5206c8d7V43cFcBc311f210H171B220J01ZZdSC0Sc091
405P409030RS7B5R15Kc9cVcP30L079HH47212P16103330J0F112G1B085412P16111111^310M2J8121P16111430L0H1R0C72
12P16111430~112H0K015321331101131323CQ0cN7121Q1H30V22021~047121Q191430^111H1K8121c820J05282S55K3R181
026cVcH11D6cV110141R101911902410P3c00c^71c3W4fMcBN0J5433031724DD0Kc510502cB1nD132610132c8132c0132610
132G1cS132d2c5HJdP253zC2J1T5dB3B7KFLGKGD12HcMc3040d3dS7c8105d5B~cKZ24CcC4TcQQ9cNdL0dZcGK7cQZF1BcCVc3
c92Bc32B5cB22c931511305h^d0lP252c525271010101~2cN1610321633254D5216fN0F0JDf50402910256010101H235440K
c8dzRk46331Dc510502cR70JQ9616161616161616w62T874244dP441dT135cB1dZK^cJHv0jr^d0%!Dd3cF2lD3HB1NcGJ~2dH
c782f62d2211017PH12131QZcMGcKc~53011CWBQTX7cGX0J419B41c8R217NQ303cK1031242010S22B72D5252596161cB1F6f
LZn=3DQ4cJll4pF2f9c66D450191D141011111fCc1pBLc^2cPc8CfN41g6c4T6TCdS35252522c3C1T1L111G2Fc2fVd5cNlCX3
cJcH^FZ5c5BZ2c34714cBgZLc34c34c78cMDB1G16111B1G16113cMDmQ9PB7S51c918d55201cC11302QBQ9~d1L11BPBTd6cR6
1d00H3121XcBX3Xc371WWcPBPBLFKfGd8cRcLFcLFc3c6W9QkVc961J2cWXB08PcBKcGNWQDcNcT120FcDc0SVc3Z0208c230DcH
G3P010c3K1SM1c^610131G197cGc67212P16111430L0D4~910201c510T010cDcNL3N2~cHN110hScGc93c4cHN0cWcBF0d7Vc5
6hTcCfNc^^72027111RH010d~72c6J010X0Bc770P0CcFM0Ld8j7c0^81c4K0cKZfJ6111c5P0T5111^G0n7LH01D1c1fX0dH<Tf
6fGKj3dxDf0HccHK5Tf<V5x6j%TZc*2wS7~KdGKZLcHJ3^N5LrJcDjMc^g0dB50d2Dd0110Xh?R8cjPc99l*7316111m2H0Z220G
38qCdl4fB5D3879h;6dN1d6112021231C10161d01327161W131410361nM2S1S1~1S1~1S1~1S1~1S17c.N~65l5cZgLcDB6J0n
1ZLcCt4Wk4Z20tH613111G1j4cWd370chN31V1110201913101060401010121110201010101011102316131310191J52141Jg
n4cm&^c0gcT6jZ2h!1GkmJHzFdr2vZct2g:B5gd^"

/-- The code points with the property Ideographic. -/
def ideographic : String := "qb61T8G2>5jr^d0!t^&l0pF2f9=lB0Wh?R8cjPc99mf7qCzl4cm&^c0gcT6jZ2h!1GkmJHzFdr2vZct2g:B5gd^"

/-- The code points with the property Join Control. -/
def joinControl : String := "lbD1"

/-- The code points with the property Logical Order Exception. -/
def logicalOrderException : String := "fx04fW4d*J220cgkV12011"

/-- The code points with the property Lowercase. -/
def lowercase : String := "f1TcH0B040c4R171010101010101010101010101010101010101010101010101010101110101010101010111010101010101
0101010101010101010101010101010102010122010203140203220201010201110203010212260202010101010101010111
010101010101010112010301010101010101010101010101010101010101010101010101010101016202110401010101d41c
371~4f00cC0103023L0Wc21132101010101010101010101014102021cMcH1010101010101010101010101010101010901010
1010101010101010101010101010101010101010101010102010101010101110101010101010101010101010101010101010
1010101010101010101010101010101010101010101010101010101010cJc8d:7cB13*S5dg2810fPh^d10101010101010101
0101010101010101010101010101010101010101010101010101010101010101010101010101010101010101010101010101
0101010101010101010101010101010181010101010101010101010101010101010101010101010101010101010101010101
010101010101010101010101010101885B78785B7878F2787878411603211832187B211fT0F0JDfF03130W04040218340c1H
40:CTc:6cH103110101040111730101010101010101010101010101010101010101010101010101010101010101010101010
10101010101010101010101011701040Dc51050>lM010101010101010101010101010101010101010101010M010101010101
010101010101012g501010101010121010101010101010101010101010101010101010101010101010101010101910102010
1010104010201210101010101010101010505010101010101010401020301010101010Q21012.PcB1F6dHz:06D4cc9TcjFc7
g8c3gWB1G1611s30221c918cl5cLfZPd.V^%q0^.qVTV61KVTV310161BVTVTVTVTVTVTVTVTVWXS15VS15VS15VS15VS1510c.N
91M65l5cZdhNc1"

/-- The code points with the property Math. -/
def math : String := "cC0J2^0Z010cF040c50^0&S220V122vH2jvF0W2C030F0G3P4C4d1D403144L04029102560312112153F10d4R1511414^1061G
lC83N1dV0~V10S0C6rZ1D945412134G01025C751cT010Z392nJc^l0t^cJN25cz>X0.R510h20J2Z010Z010g3063fr11cwzJdN
1d6112021231C10161d01327161W131410361nM2m32cKhv031V1110201913101060401010121110201010101011102316131
310191J52141JcN1"

/-- The code points with the property Modifier Combining Mark. -/
def modifierCombiningMark : String := "cxN120g306031t111230^0"

/-- The code points with the property Noncharacter Code Point. -/
def noncharacterCodePoint : String := "c?sJ^vG1c??~1c??~1c??~1c??~1c??~1c??~1c??~1c??~1c??~1c??~1c??~1c??~1c??~1c??~1c??~1c??~1"

/-- The code points with the property Pattern Syntax. -/
def patternSyntax : String := "c1GB6V310V3c2610111011404030R0^0k+SR8G2L19mK&Hh0zP~cfCv0f^q124SH0czlF1l51"

/-- The code points with the property Pattern White Space. -/
def patternWhiteSpace : String := "94L0f40k<81S1"

/-- The code points with the property Prepended Concatenation Mark. -/
def prependedConcatenationMark : String := "cv05jR0cK0q01dJ0dc>V0H0"

/-- The code points with the property Quotation Mark. -/
def quotationMark : String := "c2040g30H0k:X7T1fv70s93F2czw13hZ040dV1"

/-- The code points with the property Radical. -/
def radical : String := "p!0T1dSDjP"

/-- The code points with the property Regional Indicator. -/
def regionalIndicator : String := "f<t6T"

/-- The code points with the property Sentence Terminal. -/
def sentenceTerminal : String := "c10D0J0cn90gM2hN0cC2kQ0cZ01031m51c*41+Q041+50j61jD050mV1p23hG121Z1hX1d11=X192ft40F0Q1rF0=kX0lG1k3030
p~1dQ1d^0gS1gM2gJ1kT0!z6031h90D0J0d10d*N1ckZ4cD3hZ1fP3f^2g1160J1dS111fD0mB1fP1pP15Gf91kT2v5010kW1dR1
r41%N1dB1x.91g50d11C0w91m80zv60kt80"

/-- The code points with the property Soft Dotted. -/
def softDotted : String := "f91j40lT0~0cN0N0n00f2010jl90cM0F030g40gZ0r50jQ1d.L0fm=51cL1cL1cL1cL1cL1cL1cL1cL1cL1cL1cL1cL1dg60mK1V
0"

/-- The code points with the property Terminal Punctuation. -/
def terminalPunctuation : String := "c10B010C130.~080v10cT0d80G012hN0cCB10kC1cQG^0l51ckN1hD045mR1+P7+50fX2d71gZ230c7321mV1p23hG112Z1hX4c~
1=X192ft40F040B01131rD1=kW1lF2k34p~1dQ1d^0gR2gM2f^0J1kT0!z4213h90B010C130d1020ccV0cJ0cg60j70mQ1gS5d4
5dT3=S4cD3hZ6fJ3f^2g1160J1dS4fD0mB1fP2D1p633Gf91kT2v5010kW1dR141q~2cF0!51dB1cmC4wtT1g50d12B0w91m71zv
60kt73"

/-- The code points with the property Unified Ideograph. -/
def unifiedIdeograph : String := "rb0jr^d0!t^&vG11011B0101122dcsQcm&^c0gcT6jZ2h!1GkmJHzFgr2g:B5gd^"

/-- The code points with the property Uppercase. -/
def uppercase : String := "d1Tf5Q16c1010101010101010101010101010101010101010101010101010101020101010101010102010101010101010101
0101010101010101010101010101110103110111223111231111010111020111210113070202020101010101010102010101
0101010101020201210101010101010101010101010101010101010101010101010101010107111201310101010m10103080
601210111J18c30223010101010101010101010105020112cLcJ010101010101010101010101010101010901010101010101
0101010101010101010101010101010101010101110101010101020101010101010101010101010101010101010101010101
01010101010101010101010101010101010101010101010102c5d:9c51050&LdPdgM06cB22n0010101010101010101010101
0101010101010101010101010101010101010101010101010101010101010101010101010101010101010101010101010101
0101010101010101010101010901010101010101010101010101010101010101010101010101010101010101010101010101
010101010101010101010109785B78785C010101087d83D3D3D4C3l6040322220346010101323B150VHM0.LTc.JcHcJ01220
1010131020821010101010101010101010101010101010101010101010101010101010101010101010101010101010101010
1010101010801040>nF010101010101010101010101010101010101010101010M010101010101010101010101010g7010101
010101030101010101010101010101010101010101010101010101010101010101010B010111010101040102010301010101
010101010101414101010101010101310113050101010S0%.CTcj5c7g8c3gXB1G1611c*BcLgZPd.V^%q0^.r0TVTVTV011202
12317VTV1132716W113141036WTVTVTVTVTVT~Sc1Sc1Sc1Sc1Sc10gmPc1dbGT6T6T"

/-- The code points with the property Variation Selector. -/
def variationSelector : String := "jbC210c.tJH:b*JkH"

/-- The code points with the property White Space. -/
def whiteSpace : String := "94L0f40V0hs^0dp^BZ150cH0f=00"

/-- The code points with the property XID Continue. -/
def xidContinue : String := "cJ97T401TcH0B010205Q1~1s94CG47010KfN11321064101M1dL1gB142h51c5206c88cD101111108V43ZB5d94f517291L20Jc
V2f4GcP40202cFLW4B5R158dB1g0291L17212P1610332821238041142CB0102215412P16111111201441223073107HC21812
1P16111429121220H329961217212P1611142821227241142910J115321331101131323C4432132060G9JD121Q1H28121371
12202329J317121Q19142812137161132912DD121cL1214537429B5121K3R181026304510176921FcT5G19c7110141R101Q2
410161923c00R169C01010491c34M1K1c390cTd96dF2c510502cB1nD132610132c8132c0132610132G1cS132d22298GHJdP2
53zC2J1T5dB3B7P9PCMDD1211DdM304129c121B6dS7cB5d5B~1C4CBc724CcC4T6Bc5W4c~1X2B69F08F1HcKdD39K8DfMDcR89
3cJ2B5cB22J21c65vP252c525271010101~2cN1610321633254D5216d21M0X0F0JDcMD403CK0402910256010101H235440Kc
8dzRk468Dc510502cR70HR96161616161616161^v52TG14244dP21221dT135cB1dZK^cJHv0jr^d0%!Dd3cF2lD3WNcH491fLc
582f62d2211017PcP40McMDd5B96R301cJ2c3DX3d0GB6~1cQ9F296Q3d8S22H24B5252596161cB1F6fV11296n=3DQ4cJll4pF
2f9c66D45C1D141011111fCc1gB6jTLc^2cPc896HJH31S2c1010301010101fZM97T401TCdS35252522c3C1T1L111G2Fc2fVd
5cNg80g2X3cJH0^^FZ5cB5Z2c34714cBgZ296c34c34c78cMDB1G16111B1G16113cMDmQ9PB7S51c918d55201cC11302QBQ9~d
1L11BPBTd6cR61d031157121X2240c0X3Xc371ZTcPBPBLFKfGd8cRcLFcLFc7896c5341QkVc91131J2cRc0B08c0^PcBNWQ9d6
^H9cW70FS796cN19438c3209d4431D10c3K1c463c~610131G197cV596317212P1611141921222060562634C910201c519102
01317F1ZdB5943~d51089h6cP28R5c2d030C9c6cS796MXV2G4966hTcVf5d9P72027111Z1128D9d672cF2711Wc~808d930Ld8
j7c0H9681cD18H9SZ2P1Fd96111cC3011188965111c4111579mQQ9J1c834FBdP0dH<Tf6fGKj3dxDf0HccHJPBf<V5x6j%TcTc
&6wS7~196dG196Z24CcQ93D99N5LrJcD39j6c^g0dB4cS7Jd0111C1Gh?R8cjPc99l*7316111m2H0Z220G38qCdl4fB5D387931
gdK9v6cF2Qv~4358726~3gN2rWdN1d6112021231C10161d01327161W131410361nM2S1S1~1S1~1S1~1S1~1S172cKv0cQ4cK8
0G0Q41GcdJ~65jP61J2611145cZc10fJcD3F2940n1~KcTsQc9jQcBt5613111G1j4C6c9dC49ch631V11102019131010604010
10121110201010101011102316131310191J52141JfmN9cb6cm&^c0gcT6jZ2h!1GkmJHzFdr2vZct2g:B5gd^%*nJkH"

/-- The code points with the property XID Start. -/
def xidStart : String := "d1T6TcH0B0405Q1~1s94CG47010g141132106012101M1dL1gB8h51c5206c8d7V43cFcBc311f210H171B220J01ZZdSC0Sc091
405P409030RS7B5R15Kc9cVcP30L079HH47212P16103330J0F112G1B085412P16111111^310M2J8121P16111430L0H1R0C72
12P16111430~112H0K015321331101131323CQ0cN7121Q1H30V22021~047121Q191430^111H1K8121c820J05282S55K3R181
026cVcH10F6cV110141R101910B02410P3c00c^71c3W4fMcBN0J5433031724DD0Kc510502cB1nD132610132c8132c0132610
132G1cS132d2c5HJdP253zC2J1T5dB3B7KFLGKGD12HcMc3040d3dS7c8105d5B~cKZ24CcC4TcQQ9cNdL0dZcGK7cQZF1BcCVc3
c92Bc32B5cB22c931511305h^d0lP252c525271010101~2cN1610321633254D5216fN0F0JDf50402910256010101H235440K
c8dzRk46331Dc510502cR70JQ9616161616161616w62T874244dP621dT135cB1dZK^cJHv0jr^d0%!Dd3cF2lD3HB1NcGJ~2dH
c782f62d2211017PH12131QZcMGcKc~53011CWBQTX7cGX0J419B41c8R217NQ303cK1031242010S22B72D5252596161cB1F6f
LZn=3DQ4cJll4pF2f9c66D450191D141011111fCc1gB6jTLc^2cPc89fR010301010101fZc4T6TCcR2~35252522c3C1T1L111
G2Fc2fVd5cNlCX3cJcH^FZ5c5BZ2c34714cBgZLc34c34c78cMDB1G16111B1G16113cMDmQ9PB7S51c918d55201cC11302QBQ9
~d1L11BPBTd6cR61d00H3121XcBX3Xc371WWcPBPBLFKfGd8cRcLFcLFc3c6W9QkVc961J2cWXB08PcBKcGNWQDcNcT120FcDc0S
Vc3Z0208c230DcHG3P010c3K1SM1c^610131G197cGc67212P16111430L0D4~910201c510T010cDcNL3N2~cHN110hScGc93c4
cHN0cWcBF0d7Vc56hTcCfNc^^72027111RH010d~72c6J010X0Bc770P0CcFM0Ld8j7c0^81c4K0cKZfJ6111c5P0T5111^G0n7L
H01D1c1fX0dH<Tf6fGKj3dxDf0HccHK5Tf<V5x6j%TZc*2wS7~KdGKZLcHJ3^N5LrJcDjMc^g0dB50d2Dd0110Xh?R8cjPc99l*7
316111m2H0Z220G38qCdl4fB5D3879h;6dN1d6112021231C10161d01327161W131410361nM2S1S1~1S1~1S1~1S1~1S17c.N~
65l5cZgLcDB6J0n1ZLcCt4Wk4Z20tH613111G1j4cWd370chN31V111020191310106040101012111020101010101110231613
1310191J52141Jgn4cm&^c0gcT6jZ2h!1GkmJHzFdr2vZct2g:B5gd^"

end DataQuality.Unicode.Tables

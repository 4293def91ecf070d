/-!
# Tables of scripts

The script of every code point that has one, as runs `gap, span, script`, the script being its
position in the list of script names sorted by their long names.  The script extensions are
given only for the scripts whose extension set differs from their script set, as groups
`script, count` followed by `count` pairs `gap, span`.  The data is that of Unicode 16.0.
-/

namespace DataQuality.Unicode.Tables

/-- Scripts by runs of code points. -/
def script : String := "0d0S0TdB05S0TdB0cGS00dB0GS00dB04S0QdB00S0~dB00S0s0dB0c6S04dB04S01D0MS0fHcT03cD00S02cD23cD00S00cD40cD
00S00cD00S02cD10cD1McD1c~cD0FT0HcD0g4Z01cT0h8Z1c542cK42241cQcQ8VcQ45cQC4300S05300S0F300S02300S0^300S
0930BcT0T300cT0fC300S0c130FgJ1cWgJ22gJ0cH30cKgWGcVf922f90cFg32Gg31WdP20dP1BgJ5~31135dB300S0X30dJ^03c
T0G^01S0T^03B17B21B2PB16B10B33B28B21B23B80B41B14B2SB22cH15cH41cH2PcH16cH11cH11cH11cH20cH14cH41cH22cH
30cH73cH10cH7JcHB2cF18cF12cF1PcF16cF11cF14cF29cF12cF12cF20cFH3cF2CcF76cF12fS17fS21fS2PfS16fS11fS14fS
28fS21fS22fS72fS41fS14fS2KfSB1gR15gR32gR13gR31gR10gR11gR31gR32gR3CgR44gR32gR13gR20gR60gRGNgR5DgV12gV
1QgV1HgV28gV12gV13gV71gV12gV20gV23gV29gV78gV0Dc~12c~1Qc~19c~14c~28c~12c~13c~71c~61c~13c~29c~12c~DDdN
12dN1cLdN12dN15dN4HdN2TdN12g91Kg93Rg918g910g926g930g945g910g917g969g922g9DcTgX40S0WgXc51d910d914d91R
d910d91Qd924d910d916d919d923d9c0d7gZ1c3gZ4c6gZ1c3gZ1GgZ16gZ03S01gZc5g^f30c5c810c850c82cBc800S03c80k^
cL0d8c613c626c610c613c62c8c613c62c0c613c626c610c613c62Gc61cSc613c62d2c62^c63Tc66dPQ25Q2z^K0XfD3dBg20
2S0Bg27PgK90gK0NcN01S9MJDDgL12gL11gLDdZd529d569d561f001S00f000S0Mf06dSf07cBf05d5KB~dD1CdD4CdD40dD3Cd
D0ZgM24gMCcCf74Tf76Bf731f70^d50WH21H0c~gN1XgN2BgN69gN6FgN2~cTcKdD61cK60c^gF0cM98390cRdC3GdC32dC0cHfF
0BZ5cBc822c807gF82cT00S0DcT00S06cT03S00cT05S00cT02S01cT00S5c5dB04cD00Z0cJdB04cD03dB04cD0DdB00Z0d5dB0
0cD0c^cT0k^dB0PcD25cD2c5cD25cD27cD10cD10cD10cD1~cD2cNcD1GcD1FcD25cD1LcD22cD18cD1CS01cT0dQS1BS00dB2BS
00dB0GS1DdB3c0SHc0cTHc5S00cD02S01dB05S00dB0VS00dB0JS0c8dB02S4!TSQBSP<^S0k^G0zMS2^S1f8S0d^c90^dB0fMT5
6T0c5c810c850c82cRg~71g~G0g~0Qc696c616c616c616c616c616c616c616c61^Z0dZSc2TcK1dScKDjPcKVNS00cK00S00cK
0SS08cK03cT01cL07S03cK03S1dPcR21cT01S02cR00S0dTc^01S02c^5cBD1dZcL1HS0^D0c5S90S0Hc^0~cL1c^S0~cL0dJS0c
Gc^00S0dRc^0h7S0jr^cK0c^S0!t^cK0cgDhB3cQhB9cHdH0mCh5Nd^Z0dR78c1S0f5dB02S0d2dB21dB10dB17dBPFdB0cDgH39
S6cRf~8d5g48Cg46^^0cFd200S00d20c3g1C0g10XcL3dFcX10S09cX41cX0~f31cQP9FP29P23P0^f30d2gPS4gP0QdVB5c625c
625c696c616c61cBdB00S08dB00cD03dB01S4dHQ0cFdV29dV6n=3cLDQcL4cJcLll4pFcK2f9cKc66dBD445TcQ14cQ10cQ11cQ
11cQ19cQ0fL3JpB301S0dH32cP3703c0H30HcT09S6FcT01Z0c2S1LS13S4431g6320S1^S0TdB05S0TdB0BS09c^00S0cDc^01S
0~cL35cL25cL25cL22cL36S16SB4S2CdG1TdG1LdG11dG1GdG2FdGc2fVdG52S4cDS38S0dGcD1DS30cDcHcDS00cTg2XdJ3cJLH
0cT0VS4c3fJ92fJ0VcB5cBfL5Zh310h30c3fM4FfMcBdH~0cHg60ZfV29fV6c3fT4c3fT4c7c48cMMC0M0Bh61Gh616h611h61Bh
61Gh616h611h63cMh0DmQdF9PdFB7dFS5dB1c9dB18dBd55W20W1cCW11W30W20W0PcS18cS0^fX0~f488f4cJLcP11cP54cP0Wf
^30f^0TdK50dKd0^dZ0RdX4MdX2cFdX03d311d357d312d31Xd322d349d378d37^fP0^fKc0c6dQ4CdQ9cP53650PcW27cW0LcV
57cV0Kg073g0D6g0dJd8fQcRcLfHFcLfH75fH0c7cM89cM6c5c73Xc781c7jJ~31c9h912h921h9J23cR330c7fN8c9gBQTfRc6W
RNQc59dFF4c3F90F0d2cZB0cZ2SgC79gC6cNN1KN8c6dL9d^g51Mg9CKd61cGd6c~6f210f213f21Gf21Bf26cVd759d763cC17c
C21cC2PcC16cC11cC14cC10cT08cC21cC22cC20cC60cC56cC26cC34cCC9h210h220h21c5h219h210h220h213h219h211h281
h2ZdWf814f8~d7g^89g^h6cPg72c5g7c2d4d^C9d^6Df0McTgQ69gQ6Mf3XV12G14Q1hTcWc1f4dLh8D0h806c020c027c011c01
Zc011c02Cc099c0d67f62cFf62Bf6Wd7hC8dLgDFHK0cSfZ79^hQc1gGG9gG68C1cDC1FCBXC3^dR2PdR1FdRd96dS11dS1cCdS3
0dS11dS18dS89dS65cG11cG1c4cG11cG15cG79cGmQSdM7Jd11c8d13Xd1dP0dHHcKgRF0gR0<TVf6fGV14VCj3VdxDf2XFcdPc3
Bf<Vc35x62j%TcTcJc&6wS77~f119f141f10dGgS19gS6Z8258Bd5fWB9fW16fW1NfW5LfWrJcTd8j6dVdTf5dBd~4cSd~7Jd~d0
0gT00fB01cK00d4C1cKGh?RgT8*^gT0sPd4c90d408gTl*73c^16c^11c^10c^0l~cR02c^H0cRZ2cR20c^G3c^8qCfBdl4fBc25
Dc238c279c223c203Sf:XkTS6rMSdDcFcT2QcT9fMScXkPSBc6S2cZS02cT0JS07cT01S06cT0ZS03cT0cXSPd5cDfVMSDMSDdQS
9SSg7dNS1d6S11S20S21S23S1CS10S16S1d0S13S27S16S1WS13S14S10S36S1nMS2m3S2cKS0!Cg8H4g81Gg8cdJ~dB65dBjP6c
91Jc926c911c914c95cZZc10ZfJcDfC3FfC29fC41fCn0~h1KcTh750h7sJc9f5jQcBfG40fGt06c613c611c61Gc61j4dW2HdWc
9dC0490410+Kd3SdDcXSj2331V31131032031931331031036034031031031231131032031031031031031131032331631331
331031931J35231431J3cN13lGcCS4f3SDGS2GS1GS1c4SBhFScSTS00cR01SFcCS48S71SG5SgV>RS4JS3DS3fQS4d~S6CS40SH
CS4cRS89S6c7S8ZS2CS41Sc~nMSDFS2DS39S5cRS7GS2BS68S7gLS1f5Scb6cm&^cKc0gcTcK6jZcK2h!1cKGkmJcKHzFcKdr2vZ
cKct2g:BcK5gd^cK%*dK0S~d^Sg0kHcT"

/-- Script extension sets that differ from the script sets. -/
def scriptExtensions : String := "05cv^0c00f+%^dC49413cPcv041jQ1c1dJcHkJ~115dB1Xc<xJfLJrX2cP70c0HfJ41g6?3Wd;4~d32cR3c*+031V11102019131
01060401010121110201010101011102316131310191J52141JcN1BVdnK1K1V317212P1610332821238041142Sg&K0102110
8080204022cd?T0DD*B1plP2491DB32060j309cBfJ^czg51lV4H3jv0W21cf=H0J2h.P19MN4dt69cxJ9dbhQcN1KSgP0d0V5Vc
G1G14R0^0s1c6542MfN0906010zZ0jR0v40cnX0qP3c+L2dlLC2c01cN1B3B1GKc0c^c512251V1Jc924!TQBP<^l0zM2^1f8v0d
21TqLJ30F0F0P0rF190dSR^0cKGD3h195d^^0js0c^&l8Tf62>J0G1!%49QN2C1L13gM01^V5V5f^616B4qLDcMcDcxv3kT6rMgX
fMcXkPBc62cZ3J817Z4cXjPMDMDdQW6g7dN1d6112021231C10161d01327161W131410361nM2m32cKhfKd3dDcX&2cC4f3DG2G
1G1c4BhFcST11FcC48R5gV>R4J3D3fQ4d~6C40HC4cR896c78Z2C41c~nMDF2D395cR7G2B687gL1f5+cb70~d^T4?2FngJfM56c
%t0WW9dbl024cD38c&05201cC113020X2dbl01p!Gf2ZCcb0mHh:JBh00dD0f^0f?7^d30=?Xd^%<G1c+v0cZc10^8dl0dL2cBg:
Jc611?Q0cc.^9h6^<v09c13dp4Cck&09;>6cWc25ftb0fB5D387927c89gh0c510502cHd<JcB22gd0c51050c9Bcg4020m;Sd^t
30>cC0dsqJ61J261114cCTdnK1K1!0FgjX011~231?Q0c<vH317212P1611141921222060562634fdW110cDc6:2020cB312231
0401012101M1c~GHjm64cL444dN2m~P252c525271010101~2cN1G1F251L2218m70cdw~0%sVdGK0c!d^d5cFKdnK1K1lW21812
1P16111429121220H32C76ckmJ9cG7dp41dg?V5111c4111579cHMdnK1K1gW215412P16111111201441223073107JckrT9cKc
7p!0T1dSDjPcC21D1D1D2068hW0gNHc0c3cXc7cScJHCcM0dSSB4f0~1jr^d0!t^c+07!tSpF2f9;C1lV4<fX1D1+;GKk&~1frGc
m&^c0gcT6jZ2h!1GkmJHzFdr2vZct2g:B5gd^cLPgl0k^kv12491DG260j30cPdZfK~d1~=*1X!3n=3DQ4cJmx91lV4cV~352525
22cM7cvD0G030c00gM0dcwCc789cN1h.0QcRKqb12491DJ510413dP27dV1czn81lV4B0cF1cqf1l~L0Z2vhF0cTN+0d1111XctJ
1gnW~*McP1014vD1j2^c*lJHJF>H0czl2cF2Qw02K726~3+p:LkHcX3cnq0dF1B41cZ4dp69ck&09:d6d2B0c~PdnK1K1+VD121Q
19142812137161132912f>X01070R010cd.W5c^Nqb12491DJ51041dW33d^kJHjJcG1dRcx*F1lVc~cqdJ3161110l^2cL0G3d2
1cnl0cHd64d*69ckn09:s6K1cGd74dp41ck&B9:zQcV59dBcHd1T6TcH0H05Q1~1s0c74f~DlP1cjB1c=80fb4c56cJ535D1d5d1
k^mH0d10F0JDdM0cT160W0Kc8d&R^>!07Vf53d2211017PFmG0v1cB1813z<Q6cbVT6Tdc551c918c%:5~65dD6dp50f<V~1C4C4
03CdF4dbl7cDcjDmQ9PB7dGBdbb0C1T1L111G2Fc2fV524cD38dL3dp4Cck&09:lQc6dNCdnK1K1<VD121cL12154H2Tf:V0cd:P
2dP3cx00t^W20dQ3cx00dcf^c64CdS8dp41dg<V6111cC30111889d^3cncJ9;s6d4C9f05jb0T6dS7cBc<40c=wJDf26dz69ddb
J610131G1Bf35gb0g^cjgG0hK~f1^;dJMf69dp41<09f?T08070cd.P5<pB72cF2Bf96cvD0G030r0cV22c=m~1fL2cg30c?&DcB
fR3cx00dchK0cfZTfSLdnK1K1qW217212P1611142821227241142Kgp20R0f~3jb2110cgcVcRg04cx00dcm^K73D6g56dnK0g<
50102120c=g^d^g9Gdp41cbW21K3R181026304510176922db?DMgB2cx00ddkHc9gH3dp41g09ckvJcDgJDcvD0G120c00BBV0g
HF1cW22lJBhqF010gK3h+0P90P1gL4h.P1c9D1211gM3gd09dl6Z24gQ4dp41ck&B9;x6cT69gRTdnK1K1vX1153213311011313
23C4432132060GNgj^0cfbS0:vF010cR1fg3cKF0gVKdnK1K1!VD121Q1H281213711220232978gdV0R0gW7cvD0G120d09lQcK
c=x00B0g^6dnK1K1g<D0cd.Z9;d6d789h97cvD0G030d09ddbQc91221hB7qb115927j^0;+4cgD3cQ&!V4"

end DataQuality.Unicode.Tables

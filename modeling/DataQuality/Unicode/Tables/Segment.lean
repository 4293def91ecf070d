/-!
# Tables of ages and text segmentation

The version of Unicode in which each code point was assigned, as runs `gap, span, age` (the age
being the position in the list of versions from 1.1 to 16.0), and the values of the grapheme
cluster, word and sentence break properties as runs `gap, span, value`, the value being the
position in the sorted list of the property's values; code points outside every run have the
value `Other`.  The data is that of Unicode 16.0.
-/

namespace DataQuality.Unicode.Tables

/-- The version of assignment, by runs of code points. -/
def age : String := "0tP00330Z00730050060K30260B70F80dS00430160cG00030900430J60d500830050760470260100030D5039010019200028
00000H4601001M01cC00090600030150000030000030000030000030K00140050460370030C00030d100030C00030c800090
130150330cN00150100150100150080W00130700170100580H50380H901B01C07H1c5026000M0c6000M00000321H00D1J100
70D10900080800010278V040M040C3600D00H04900700008604900000G00R00700000C0T00490L002302605700C0F00150d7
00130400030G00030Z00160900430060F31Z30260V32260Z70K90cJ3005GcV822M0cFB2GB1WC20C1BL5~R11R50V07R00D00H
0BD05H01J00R07K09Q0BR00M0GK00J0VD00H00B0200060cN001C0K000B00C04000B01C0S001904C00H01B01800701800H020
1702102P01601003302000060602102200078004101402N000B01L00M2060000061504102P01601101101102001404102203
097301007G000900MB201600060001201P0160110140290120120200H0002629000D00670J05L1201702102P016011010603
027000921022070Q0104101200192B000605CB10150320130310100110310320370007020440320130209600G070C007650H
02000M0701201Q019000H04020R00906012013071011900J20R21001929070N07900K00H01000M0701201Q01901402160601
2013071060R00011001829011800SD0L00H01000Q0701201Q000C0H000C01L00905000912013000C00K42K00006K00J01001
929005902K06910Q0131K33R318310326330345310317369H223DcT04X0c51010010N01000N00010N00005N03000N06000N0
2010010001N01000N0D000N02024010015000S19021001Dc0d711c010030194V103C0510030011N10230610030010231G310
900301702903B01Cc5c130090430090130090630290330590T30c^903B0190c5010D50D2c6001501700000702D0dT004B0d3
004B0dK005B0630070c~30070031332631031332c630070031332~30070031332631031332630070631Q30070~3007003133
2630070c630070L321C0170W33T76dN300J25J20B0zP308B0X33dJ307H7D500R06500R90R0Q59M5DD5125115DdX300629369
66G300R0936dR300M7c930095d5BBX601H1C64C64063c96246Cc9701B4T769700B3170^60W72170c~B1XB2BB69B6FB2GH01Q
0FRcKdC800R11V0cD801R00V0cB902D0C905D0cMC83C0cR93G93cL908K01V5cBM22M07D8c2B03D00L01H00N5fC60dR70680W
90GH03L00R00K00C00B0180gV00010390dT00590P02502c502502701001001001~02cN01G01F02501L02201801cG00030Q00
0505304501601700506704500913G0600052V014707C3B000100202301503702B00C00F02H00J00L00RHK001306500703800
9HcS00130060070G500701800902B0cH000300803900B01J4dV00830C50kK00F50000030fS00030050Z30cM50160B70C800B
0BC06H03K00L0c4001302VQB0PgB00M50060gP00950dH00730750M00160150070030dP00130C50170950760B700901B0160H
700809902B03909B00C0LB00C00B03C0RB00H03000C03001C0W000C0c2000C00000C03002C00000B06001C0600F50~002C0R
000C0F000C06703800D00900D01C0W50390H50k^30t^50F60570680490380c8902H04904B0TH2^H10Q0c1H02M0CH00N07H00
L0SM03J0GM00N0cG700R0cG700R0D802900B02903805901B0fB706B01D5cD710D50D2cP701D70700CG0C0Q79671671671671
671671671671^90R70390170L900B09D06H01K04L04M00N02Q0BRc2T31dS3DjP3VC303T0cR00230250030001dM0015250015
0dZ00055c7000900L00M1dZ01H00R302C04Q0H70M901V90T0H50X00161c300CB0060G50W00160070cK00G50C00360cG000P0
fQ00360f200160~00060jrP309Q0c^60!r500P707907B00D08J0NL04M0DQ02R0cgD33K30150H30050C30050230050039cHB0
mC9N^901C0K907D0W905H00J00D0dRB8Q70380490180fB901C00J01C01D0CH09C00D02H00K00M01H05J01M05N01R04N03Q02
V21R10R14R02VP2R01Q00H01D00C0490cC700Q39B6cR88d4900K8C96WB01J01M0dM9C090XB3dFB1BB41B0~H1cQ99F9299239
0WB03H0d2BS4B0QDB5C25C25C96C16C1cHH03J01H01N03Q4dHJ0cFB29B6n=31DQB4cJB4c?^10jwF001D0cV502B2f97c660D4
05030S01401001101101fC00HC00RJpD00HR0c^02cP070R0^40C000500601R0H509763002906H01J0N00150160901L013042
00050001g602001dZ00150dZ0350250250220360160B230020200C61T61L61161G62F6c2fV65264cD63860dB701H01K1C900
Q30HcHcF9g2X93cJ9HWH4~400H03492L0V45cBH5Z61060c374F7cBc540160c540dH62966c3K4c3K4c7H8cMHC0H0BR1GR16R1
1R1BR1GR16R11R3cMVDmQH9PHB7HS5R1c9R18Rd5562061cC61163062060PB18B0c~H88HcJLJ11J54J0T801B3080T9509d0cR
D41J01D0HJ2cFJ0371175771271V701M22748700M7877^B0^Hc0c6H4CH9cPB3XB2VB57B0KH73HD6HdJd8BcRcLJFcLJ75J0c7
M89M6c5V3XV81VjJ~B1c9Q12Q21QJ2VcR0V02S0c7M8c9MQTRc6WQNQN9dFC4ZC05R90H0d1B00RB0M2SD79D6cND1FD02M00Q8c
6H9d8D03J00H01Q09D00H04J1MHCKH1cBH00K02Sc~6J10J13J1GJ1BJ6cVH59H60J02H17H21H2PH16H11H14H10M08H21H22H2
0J60H56H26H34HC9V10V20V1c5V19V10V20V13V19V11V81VZdTK00Q00K10K00M00N01Q~d7H89Hh6cPH2KH0MJc2d4HC9H6DKM
cRD00N00R69D6MVXTJ00M2GJ4HJ06RhTcWMf4dLHD0H06Q20Q27Q11Q1ZQ11Q2CQ99Qd67N2cFN2BNWd7L8cML01N0QL00M04LFH
R0cSH79ShQc1VG9V68K1cDK1FKBXK3^K2PK1FKd96L11L1cCL30L11L18L89L65M11M1c4M11M15M79MmQSM7JS1c8S3WS00VdP0
QHcKNF0N0;G80c9H00Jf6f280CH13800HCj3JdxDf2RFccGB00S08N0XSBf<VV5x6Jj%TcTVc&6wSC7~H19H41H0dGR19R6ZH25H
Bd5HB9H16H1NH5LHrJcTVj6dVMf5d4D05N40N0cGD08N7JDd00K00L01N00QC1QGh?DK04M05N8*LK0t2Qc90V08Ql*73R16R11R
11C0lXL03RH0SZ2N20SG3N8qCLdl4fBH5DH38H79H27Hf:XkTV6rMVdDcFR2QR9fMRcXkP4Bc642090hM40BJ01RPd57fVMSDMMD
dQ69K806Mg7dN41d641142042142341C41041340060141d041342741641W41341441043641nK40172m140182cK40!CJH4J1G
JcdJ~R65SjP6K1JK26K11K14K5cZSc10SfJcDN3FN29N41Nn0~RKcTN50NsJc9SjQcBV40Vt06R13R11R1GR1j4H2HHc9dBK00N4
9K41K+Kd3MdDcXNj23D1VD11D10D20D19D13D10D10D60D40D10D10D12D11D10D20D10D10D10D10D11D10D23D16D13D13D10D
19D1JD52D14D1JDcN1DlGcC94f39DGC2FC00H1GC1GC0PHBBB01H02Q0~B00M00C00B0BC00B00C00B01C00B02C00B02C04B07C
00B06C00B09C01D00N02Q08C00B00C01B01C00B09C03B01C00B09C0KK00QcSTC00B01CFc1B08C00K48B71CG5LgVc0C0CH02J
05C00H0d5C00H01J0MC0CH0c4C00H04C03H04J0CH0JC06H07J0c~C00H00C00H0hPC00H03C01H00J0cZC01H03D06H04J0RC0K
H00K0c8H00K0dPH04C00D0HC00D02C00D00C00D00C00D00C00D02C00D05C01D03C00D00C01D03C00D0CC01H01J0BC0cHH0d5
C09H00J01K01L00N01Q40S02R0DH33H02K01L00M00N01Q3fMC02S44S0dNH03M00S6CN40RHCH4cRH89H6c7H8ZH21Q09V41Vc~
CL00Q02N08J05K00L07K07L00K01L0CK00N0CK00L02M0GK0DL04M00N00Q03M01Q00R00M00N03M04J0DK05L0BM01Q05N02Q01
N09M05N00J01M07N00Q00R02N0QL0SM0dMNDFM23N00Q02S02N01R32N03Q01S00V50V05N0LQ03R02S06Q03R02S00V00S02Q02
R00V71S06Q02R01S00V20V07R00S00V66R01S7gLQ1cQQ0c4V09Qcb4110cm&Q406Q01Rc0gcNB03R00S6jZC2h!1JGkmJLHzFTd
r2vZ4ct0110g:BQ5gd^Sc*dG11c??~11c??~11c??~11c??~11c??~11c??~11c??~11c??~11c??~11c??~11104~d^4g0kH6c?
vGgbb11"

/-- Grapheme cluster break values by runs. -/
def graphemeClusterBreak : String := "0910040110000K1d^c01F01xLfH2lM62l7cD2102112112102cS57BB2101cGN2J02f562007152212132c107102~V2dWB2cV82
902S32182122142cC22cN17582cBR20070^2009cQ02009002129072039002019162B12Z02019cS0210201903221921900290
2B12V02212009cS02129012412222302~12302C12009cS02129042112009119002N12Q52102019cS02112009032219219002
722B12~02cW02009002019329129002902c802029002cR02122039122132712C12Z02019cS02109002019002019102019119
012712C12H09D12019cR12102019032129129002007802B12Z02019d602402019022102169002L19cZ02109062D72f202109
082C62d912W02102102419cKF20090421125B21c32902f632009052112019012R19012422J32F02109012602H02f2d^30d7C
0dRBnZ22=L22009X12009Z12~12d0120090620790020190B2902cF22001002fP12c202fQ22039012029419002059022jW120
19002cT09002009062102102272059092202cJ~2cK32009cH62009002049002019c682D12009~09032019012009022cS0200
9012029002009022019cJ79072019012gS221D2009062402602209012j6c^2vC0100200D011S61cKH1f0c02d?~22gF02f0^2
wB52f912=sN32192c012dJ12lJ02302402R19012009402dM19cLH9012VK2F02c672TB2019DX3322009cH0201903201901202
9c402d352019012019012D02802009cG02cM02122212512102c909012019509002kD19002019002019109002L050V60050V6
0050V60050V60050V60050V60050V60050V60050V60050V60050V60050V60050V60050V60050V60050V60050V60050V60050
V60050V60050V60050V60050V60050V60050V60050V60050V60050V60050V60050V60050V60050V60050V60050V60050V600
50V60050V60050V60050V60050V60050V60050V60050V60050V60050V60050V60050V60050V60050V60050V60050V60050V6
0050V60050V60050V60050V60050V60050V60050V60050V60050V60050V60050V60050V60050V60050V60050V60050V60050
V60050V60050V60050V60050V60050V60050V60050V60050V60050V60050V60050V60050V60050V60050V60050V60050V600
50V60050V60050V60050V60050V60050V60050V60050V60050V60050V60050V60050V60050V60050V60050V60050V60050V6
0050V60050V60050V60050V60050V60050V60050V60050V60050V60050V60050V60050V60050V60050V60050V60050V60050
V60050V60050V60050V60050V60050V60050V60050V60050V60050V60050V60050V60050V60050V60050V60050V60050V600
50V60050V60050V60050V60050V60050V60050V60050V60050V60050V60050V60050V60050V60050V60050V60050V60050V6
0050V60050V60050V60050V60050V60050V60050V60050V60050V60050V60050V60050V60050V60050V60050V60050V60050
V60050V60050V60050V60050V60050V60050V60050V60050V60050V60050V60050V60050V60050V60050V60050V60050V600
50V60050V60050V60050V60050V60050V60050V60050V60050V60050V60050V60050V60050V60050V60050V60050V60050V6
0050V60050V60050V60050V60050V60050V60050V60050V60050V60050V60050V60050V60050V60050V60050V60050V60050
V60050V60050V60050V60050V60050V60050V60050V60050V60050V60050V60050V60050V60050V60050V60050V60050V600
50V60050V60050V60050V60050V60050V60050V60050V60050V60050V60050V60050V60050V60050V60050V60050V60050V6
0050V60050V60050V60050V60050V60050V60050V60050V60050V60050V60050V60050V60050V60050V60050V60050V60050
V60050V60050V60050V60050V60050V60050V60050V60050V60050V60050V60050V60050V60050V60050V60050V60050V600
50V60050V60050V60050V60050V60050V60050V60050V60050V60050V60050V60050V60050V60050V60050V60050V60050V6
0050V60050V60050V60050V60050V60050V60050V60050V60050V60050V60050V60050V60050V60050V60050V60050V60050
V60050V60050V60050V60050V60050V60050V60050V60050V60050V60050V60050V60050V60050V60050V60050V60050V600
50V60050V60050V60050V60050V60050V60050V60050V60050V60050V60050V60050V60050V60050V60050V60050V60050V6
0050V60050V60050V60050V60050V60050V60050V60050V60050V60050V60050V60050V60050V60050V60050V60050V60050
V60050V60050V60050V60050V60050V60050V60050V60050V60050V60050V60050V60050V60050V60050V60050V60050V600
50V60050V60050V60050V60050V60050V60050V60050V60050V60050V60050V60050V60050V60050V6DQC4cJBl.202*1H2JH
2jH01g~12dJC1v102k202gP42c!622112532c822402h512wZ32d142mZ12dH32d6B2cK32fV09002009cPG2c902212B22009cF
29032019012207402B07cL22c442009072J19cD02D12009cJ29082019117532109002dX29022019002009012602202gZ0202
9072P12019cR12102009002039219229902B19262342d329052109209139119002009002102G12dL29072019022009002R02
dK02019052009002019002009012009012kC02019032239012009012W12dL29072019002009012fB02009002019052009002
f522232009042l029082009012kP02049119212009002007009007009002gF29032212039002309X92c85200900703280295
2019022c8570D2009012qP09062152009002dLP2109062009012009012fV52302112162007002d249112119002009002nW12
019912007009cJ19042319002009002R02hjPH10026G2pj8C2029022ds042cW62cbS021cQ9732dK02C19zhC12131gxXcF22Q
2v~02009022309042071072262~32gN22c=WcQ24cK2802G02Q421G2cnJ621J2262112142f402h062pR02cZ32tX32k~12*062
fF62dgWT8tW42+fb0^10d^20f^10kH20fvH1"

/-- Word break values by runs. -/
def wordBreak : String := "B0801D001L0J10240H40B10C19F00900B5T04041T0B0Dc4002057001092005Q01~01s^06c100fH304011023000B000600009
0201001M01dL01gB01630h501c502301000090c8000B0006cD31031131131038V6436000009C5561B2B31053cB00N309F10F
00B1100030f2010006300515301001313301009F020200H050000030Z00V32dS00B3000G9F0c0008301020B1002032P00330
00083000023000043LS00234B05R01501155830c900R30050c030cP00230000K300006309001329F1H00231702102P016010
033020300006321322300080341012001329F010B001032231504102P016011011011020314341322330373010079F013020
003C231801201P0160110140203000073123123200H1001329F9000531231702102P01601101402030000632132237234101
2001329F100J030001503201303101001103103203C0443323133200603G9FJ430701201Q01H020300006312313371312020
021001329FJ000231701201Q019014020300006312313371361011001329F110003D330801201c8001300006312313300052
000372001329FB501231K03R018010026030345310317369F213cZ03263D7319FdR03283C6319Fc600R1369FC03103103413
0701c304M31130400B31c33903f4M319FD33423123263333FC310309F0332c501005002cB01nD01302601001302c801302c0
01302601001302G01cS01302d20223c0H0JdP02503zC02J000J0T05dB03B07K00339L0023CK0013DD0120113d0^390329Fc1
2300500309F6dS07400130c100030005d50B~01C34C3B9Fg09Fc6Q0043cT931X320309F69FQ~3cK430cG00J307039FK83D23
0Z00D301009F0cC00F3Dc300M389F32009F0c302B05cB0220J231N30300030500030100230005h^00c^30lP02502c5025027
01001001001~02cN01601003201603302504D052016036J12J10300K01581CB0C20901D045004H1430BH04B0J045195100F0
0JD0cMc03K004002901003406001001001301B0230540400Kc80.FcM0c+Qk40630023010Dc501005002cR0700H030Q096016
01601601601601601601^3cH00sJ0J400c453147510dX130173dV71375cB01dZ0K^0cJH7jJcG71dR7;h8cgD0d3cF02lD03H0
09F010NcG00331931~00130dH0013Qj50210100170PH00030200030300030Q0043403McM0D130cK00K3B9F6K305030011000
309F0W00732Q00D3DX03330cG00F3G0009FC03B9F6c800F392000307001329Fc123cL03123213513103~B0043220013B5025
02509601601cT06fL007311329F6n=30DQ04cJ0l+460D405060030961D61461061161161960f10c1pB0Lc^02cP0c8C04H300
B20900BCH3314S2400B10C10B009V401g6020570C40B10C19F00900B5T04041T0CcR70130~0350250250220X254C01T01L01
101G02F0c2fV0d5cN0g803g2X03cJ0H03^^0FZ05c500435Z02c30470140cBgZ029F6c304c304c708cM0DB01G01601101B01G
01601103cM0DmQ09P0B70S501c90180d5502001cC01103002Q0BQ09~0d1L0110BP0BT0d6cR0610d0000231135330301201X0
223403c0X03X0c3701W0013TcP0BP0BL0FK0fGd80cRcL0FcL0Fc3003389F69F0W03431Q0kVc90113310J20cR330X0B008P00
B3^K0033cBN0WQ09230cN00G3^9F0030100130009330cD00B3205403B052S079F6230c300F319F4000130008c20003200923
0cH00F303043311309F000100c3K01S00C3603010003c~601001301G01907cG00C359F6331702102P0160110140113000063
213223200603540013263343C901002001c50100083103203133143000003000F13ZcN00K303059F403020~cH00M30101008
9Fh6cG0063283R30013c2cH00J3300C9Fc6cB00D300079F6MFcTG349Fj6cC00G3f5c^009FP702002701101R0053113233000
003000013D9Fd6702c60063263000100003W000930c700630000338038000B30cF00H3300Ld80j7c00H9F6801c4007317300
0H9FSZ02P31F3d9601101c5005330311316300000389F6501101^004311314300079FmQL00339130000030D01c10063343F9
F003dP00dH<T0f6fG0Kj30dxDf00HccH00H50030500G3Bf<V05x60j%TZ00K309Fc&6wS07~019F6dG019F6Z0243CcH0063930
D9F9N05L0rJcD039Fj6c^0g0dB04030000cQ37330D0d010100003C13t?~37167117107l^27cL07G37d!SfB05D03807903131
35gdD9Fv6cF32Q3v~43353075073263~33gN23rWdN01d601102002102301C01001601d001302701601W01301401003601nM0
2S01S01~01S01~01S01~01S01~01S01702cKFv0cQ34cK3803G03Q431G3cdJ~0650jP631J32631131435cZ0c103fJcD036306
029F400n1Z0003KcC003309FsQW003309FjQZ001300009Ft5601301101G01j40C63c9d3006300049Fch6301V011010020019
01301001006004001001001201101002001001001001001101002301601301301001901J05201401J0zNT06T06T0dXTGtW43
c?J9F+cb705~d^3g0kH3"

/-- Sentence break values by runs. -/
def sentenceBreak : String := "90D00501D001L0D00B00242221900019700940B1TF0021023T600210270CV0D9060021047064060024QF16F0R617600F0060
0F00600F00600F00600F00600F00600F00600F00600F00600F00600F00600F00600F00600F00600F00600F00600F00600F00
600F00600F00600F00600F00600F00600F00600F00600F00600F00600F01600F00600F00600F00600F00600F00600F00600F
00600F01600F00600F00600F00600F00600F00600F00600F00600F00600F00600F00600F00600F00600F00600F00600F0060
0F00600F00600F00600F00600F00600F00600F00600F00601F00600F00600F02601F00600F00601F00602F01603F00601F00
602F02601F00601F00600F00600F00601F00600F01600F00601F00602F00600F00601F01600800F02603801F00601F00601F
00600F00600F00600F00600F00600F00600F00600F00600F01600F00600F00600F00600F00600F00600F00600F00600F0060
0F01601F00600F00602F00600F00600F00600F00600F00600F00600F00600F00600F00600F00600F00600F00600F00600F00
600F00600F00600F00600F00600F00600F00600F00600F00600F00600F00600F00600F00600F00600F00600F00600F06601F
00601F01600F00603F00600F00600F00600F00600F0d460080c360680164C8G46708108KfH300F00600F00600810F0062361
0F60F12F10F11F0060JF18F0c2600F01602F02600F00600F00600F00600F00600F00600F00600F00600F00600F00600F0060
0F00600F04600F00610F00601F0160cLF0cH600F00600F00600F00600F00600F00600F00600F00600F00600F00600F00600F
00600F00600F00600F00600F00600F00600F00616300F00600F00600F00600F00600F00600F00600F00600F00600F00600F0
0600F00600F00600F00600F00600F00600F00600F00600F00600F00600F00600F00600F00600F00600F00600F00600F00600
F00601F00600F00600F00600F00600F00600F00600F01600F00600F00600F00600F00600F00600F00600F00600F00600F006
00F00600F00600F00600F00600F00600F00600F00600F00600F00600F00600F00600F00600F00600F00600F00600F00600F0
0600F00600F00600F00600F00600F00600F00600F00600F00600F00600F00600F00600F00600F00600F00600F00600F00600
F00600F00600F00600F00600F00600F0061c5F2083092c8600B7cD31031131131038V8448D546192B310402B0cB80N309711
71180030f2800B00806300415301801313301809702820802BD040080030Z80V32dS80B3008G970c0808301820900B008203
2P803300808300802300804390B10B31B1S80234B85R81581145830c980R30040c030cP80230080K300806309801301B0971
H80231782182P8168108338203008063213223008803418128013297018B081032231584182P816811811811820314341322
3303738108797013028003C231881281P8168118148203008073123123208H180132979080531231782182P8168118148203
008063213223723418128013297108J030081583281383181081183183283C8443323133208603G97J430781281Q81H82030
08063123133713128208218013297J080231781281Q8198148203008063123133713618118013297118003D330881281c880
13008063123133008528003728013297B581231K83R8188108268303453103173697213FcH8003018063568073197c718108
1481R8108198003018083008248108163197238c008R13697C031031030320130781c384M31130480B31c33903cTcB80M300
809701B4580330380230080230180630280330D80C30080030970332c5F10F50F2cB81060nC81382681081382c881382c081
382681081382G81cS81382d2822320B41BRH8JdPF2563zC810B0J800D0T80123dB83B87K80339L802301B9K8013DD8128113
DcM80^3308408003297S0900B40900B1230040030976dS87480130c180030085d58B~81C34C381B0970Z8248CcC84T8697c6
Q80434cN80931X3203097697F0803B4~3cK430cG80J307839701B21BC8391B1230Z80D30180970cC80F3Dc380M331B397328
0970c3801B08600F0065cB8228J231N30380030580030180230085h^60c^300F00600F00600F00600F00600F00600F00600F
00600F00600F00600F00600F00600F00600F00600F00600F00600F00600F00600F00600F00600F00600F00600F00600F0060
0F00600F00600F00600F00600F00600F00600F00600F00600F00600F00600F00600F00600F00600F00600F00600F00600F00
600F00600F00600F00600F00600F00600F00600F00600F00600F00600F00600F00600F00600F00600F00600F00600F00600F
00600F00600F00600F00600F00600F00600F00600F00600F00600F00600F00600F00600F00600F00600F00600F00600F0060
0F00600F08600F00600F00600F00600F00600F00600F00600F00600F00600F00600F00600F00600F00600F00600F00600F00
600F00600F00600F00600F00600F00600F00600F00600F00600F00600F00600F00600F00600F00600F00600F00600F00600F
00600F00600F00600F00600F00600F00600F00600F00600F00600F00600F00600F00600F00600F00600F00600F00600F0060
0F08607F05625F27607F07607F05625F27610F10F10F10F07607F0F627607F07607F07607F04611604F10632611604F33621
603F47604F52611604F3BD00401301431937240031C04400D91211B71202BP0D044194106C12006F121D6cMc03K0F40F2060
2F01602F00610F34F60F10F10F13F10603F00603800621601F50F036406KHF0H602800F006038p^32Z12qCTF0T6zK527F2dH
12^92qMP2c^32c012v2cHF0cH600F00602F01600F00600F00600F00603F00600F01600F07602F00600F00600F00600F00600
F00600F00600F00600F00600F00600F00600F00600F00600F00600F00600F00600F00600F00600F00600F00600F00600F006
00F00600F00600F00600F00600F00600F00600F00600F00600F00600F00600F00600F00600F00600F00600F00600F00600F0
0600F00600F00600F00600F00600F00600F00600F00600F00600F00600F00600F00600F01660F00600F00602300F006Dc561
065062cR8708H030Q89681681681681681681681681^30F2G1229240B008D0B502J1B072r30D00900B228092272122188053
1482484dP82132281dT81385cB81dZ8K^8cJH8v0jr^8d0%!D8d3cF810B0lD811B0H8097018N0F00600F00600F00600F00600
F00600F00600F00600F00600F00600F00600F00600F00600F00600F00600F00600F00600F00600F00600F00600F00600F006
00F00600F00600803319310800F00600F00600F00600F00600F00600F00600F00600F00600F00600F00600F00600F00600F0
0600F0260130dH801310B30B^8820F00600F00600F00600F00600F00600F00600F02600F00600F00600F00600F00600F0060
0F00600F00600F00600F00600F00600F00600F00600F00600F00600F00600F00600F00600F00600F00600F00600F00600F00
600F00600F00600F00600F00600F00600F00600F00600F00600F09600F00600F00601F00600F00600F00600F00600F006008
20F00600F00600800F00600F02600F00600F00600F00600F00600F00600F00600F00600F00600F00600F00604F00604F0060
0F00600F00600F00600F00600F00600F00600F00603F00600F00601F00620F00610610600F00600F00600F00600FP2600F00
60080260680030280030380030Q8043403McM821B8130cK80K381B0976K30583081180030970W807310B0Q80D3DX83330cG8
0F371B5080976480030980970481c880F392800307801329732B0Q83080230cK8003008023018013048013008003008S282B
804301B028013B582582589681681cB61F66dH60c2807300B0132976n=38DQ84cJ8ll4pF82f98c666D465080030981D81481
081181181fC8c1pB8012Jc^82cP8c8C84H30191093127H31192H221271900020901B009052409D481g6820410B6122190001
9700940B1TF0021023T600210211200B0120091cR80130~8358258258228X244C81T81L81181G82F8c2fV8d5cN8g803g2X83
cJ8H03^^8FZ85c580435Z82c38478148cBc7F0c760dF82976c3F4c364c788cM8DBF1GF16F11F1B61G61661163cM8DmQ89P8B
78S060180261c96186d5582081cC81183082Q8BQ89~8d1L8118BP8BT8d6cR8618d0080231135330381281X8223403Q1B8X83
X8c3781W8013TcP8BP8BL8FK8fGd88cRcLFFcL6Fc380338976970580PF3431080P6kVc98113318J28cR330X8B088P80B344B
QK803303Bc6N8WQ89230cN80G301BZ970030180130089330cD80B320403B003B042S87976230c380F319712B0080130088c2
80032089230cH80F303801B23300B01309700810811Bc0K81S80C301B11B103018003c~681081381G819800B6cG80C359763
31782182P8168118148113008063213223208603548013263343C981082081c5810808310320313314300800300801BC13Zc
N80K303801B397403028~cH80M3018108897h6cG806328311B5GB038013c2cH80J301B108C97c6cB80D30087976M7XV82G34
9722B168hTcC80G3f5^F0^6097P782082781181R805311323300800300801300B10B997d6782c68063263008108003W08093
0c7806300803331B3038080B30cF80H311B008Ld88j7c08H976881c4807317300801BF97SZ82P31F3d9681181c5805330311
31630080038976581181^8043113143008797mQL803301B7130080030D81c1806334301BC97003dP08dH<T8f6fG8Kj38dxDf
08HccH80H40030580G3Bf<V85x68j%TZ80K3097c&6wS87~819741B0dG81976Z824300BBcH806301B73800BC979N85L8rJcD8
11B097j6^F0^6S0Bf7dB84030080cQ37330D8d018108003C13Gh?R88cjP8c998l*7381681181m28H08Z28208G388qC8dl4fB
85D838879831300B034gdD97v6cF32Q3v~43353074073263~33gN23rWTF0T60TF0661K60TF0T600F11F20F21F23F17F03610
61661B60TF0T601F13F27F16F1T601F13F14F10F36F1T60TF0T60TF0T60TF0T60TF0T60TF0T60TF0W62SF1S61560SF1S6156
0SF1S61560SF1S61560SF1S615600F0062cK7v0cQ34cK3803G0330BL431G3cdJ960080M6656jP631J32631131435cZ6c103f
JcD8363068297408n1Z8003KcC8033097sQW8033097jQZ8013008097t5681381181G81j48C63c9c1F0c16063008497ch6381
V81181082081981381081086084081081081281181082081081081081081181082381681381381081981J85281481J8zNTF6
TF6TFckD22cpR97cb6cm&^8c0gcT86jZ82h!18GkmJ8HzF8dr2vZ8ct2g:B85gd^8%*dK04~d^3g0kH3"

end DataQuality.Unicode.Tables
